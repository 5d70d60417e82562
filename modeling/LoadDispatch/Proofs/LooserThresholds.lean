import LoadDispatch.Proofs.StabilityJudgement

/-!
Judging is monotone in the thresholds. Doubles compare as their rational values, so a value within a
limit is within every looser one, and an indicator relaxed to another passes every run the first
passes, whatever the script type.
-/
namespace LoadDispatch

namespace Binary64

section Order

theorem scaleRatio_den_pos (num : Nat) {den : Nat} (k : Int) (h : 0 < den) :
    0 < (scaleRatio num den k).2 := by
  unfold scaleRatio
  split
  · exact h
  · exact Nat.mul_pos h (Nat.pow_pos (by norm_num))

theorem scaleRatio_num_eq_zero_iff (num den : Nat) (k : Int) :
    (scaleRatio num den k).1 = 0 ↔ num = 0 := by
  unfold scaleRatio
  split
  · simp [Nat.pow_eq]
  · rfl

theorem magnitude_den_pos (x : Binary64) : 0 < x.magnitude.2 :=
  scaleRatio_den_pos _ _ Nat.one_pos

theorem magnitude_num_eq_zero_iff (x : Binary64) : x.magnitude.1 = 0 ↔ x.isZero = true := by
  unfold magnitude
  rw [scaleRatio_num_eq_zero_iff, mant, isZero]
  split <;> simp_all

/-- The value of a double as a rational: its sign applied to its magnitude; both zeros are zero. -/
def value (x : Binary64) : ℚ :=
  if x.negative then -((x.magnitude.1 : ℚ) / x.magnitude.2) else (x.magnitude.1 : ℚ) / x.magnitude.2

/-- Doubles compare as their values. -/
theorem lt_eq_true_iff (x y : Binary64) : lt x y = true ↔ x.value < y.value := by
  have hb := magnitude_den_pos x
  have hd := magnitude_den_pos y
  have hxz := magnitude_num_eq_zero_iff x
  have hyz := magnitude_num_eq_zero_iff y
  unfold lt value
  rcases hx : x.magnitude with ⟨a, b⟩
  rcases hy : y.magnitude with ⟨c, d⟩
  rw [hx] at hb hxz
  rw [hy] at hd hyz
  dsimp only at hb hd hxz hyz ⊢
  have hb' : (0 : ℚ) < b := by exact_mod_cast hb
  have hd' : (0 : ℚ) < d := by exact_mod_cast hd
  have ha : (0 : ℚ) ≤ a / b := by positivity
  have hc : (0 : ℚ) ≤ c / d := by positivity
  have ha0 : (a : ℚ) / b = 0 ↔ a = 0 := by simp [hb'.ne']
  have hc0 : (c : ℚ) / d = 0 ↔ c = 0 := by simp [hd'.ne']
  cases hz : (x.isZero && y.isZero)
  · -- not both zero: the order of signed magnitudes
    have hnz : ¬ (a = 0 ∧ c = 0) := by
      rw [hxz, hyz]
      simpa using hz
    cases x.negative <;> cases y.negative <;>
      simp only [Bool.false_eq_true, if_true, if_false, decide_eq_true_eq]
    · rw [div_lt_div_iff₀ hb' hd']
      exact_mod_cast Iff.rfl
    · simp only [false_iff, not_lt]
      linarith
    · -- a negative value is below a positive one, the two zeros apart
      simp only [true_iff]
      by_cases ha' : a = 0
      · have hc' : (0 : ℚ) < c / d := lt_of_le_of_ne hc (Ne.symm fun h => hnz ⟨ha', hc0.mp h⟩)
        linarith
      · have ha'' : (0 : ℚ) < a / b := lt_of_le_of_ne ha (Ne.symm fun h => ha' (ha0.mp h))
        linarith
    · rw [neg_lt_neg_iff, div_lt_div_iff₀ hd' hb']
      exact_mod_cast Iff.rfl
  · -- both zero: equal values
    rw [Bool.and_eq_true, ← hxz, ← hyz] at hz
    obtain ⟨rfl, rfl⟩ := hz
    simp

theorem le_eq_true_iff (x y : Binary64) : le x y = true ↔ x.value ≤ y.value := by
  rw [le, Bool.not_eq_true', ← Bool.not_eq_true, lt_eq_true_iff, not_lt]

theorem le_trans {x y z : Binary64} (hxy : le x y = true) (hyz : le y z = true) :
    le x z = true := by
  rw [le_eq_true_iff] at hxy hyz ⊢
  exact hxy.trans hyz

theorem lt_eq_false_iff_le (x y : Binary64) : lt x y = false ↔ le y x = true := by
  rw [le, Bool.not_eq_true']

end Order

end Binary64

/-- A limit relaxed under an order `r`: unset afterwards, or set before and after with the two in
order `r`. -/
def LimitRelaxed (r : Binary64 → Binary64 → Bool) (o o' : Option Binary64) : Prop :=
  ∀ l' ∈ o', ∃ l ∈ o, r l l' = true

theorem LimitRelaxed.keeps {r : Binary64 → Binary64 → Bool}
    (htrans : ∀ {a b c}, r a b = true → r b c = true → r a c = true) {o o' : Option Binary64}
    (h : LimitRelaxed r o o') {v : Binary64} (hv : ∀ l ∈ o, r v l = true) :
    ∀ l' ∈ o', r v l' = true := by
  intro l' hl'
  obtain ⟨l, hl, hll'⟩ := h l' hl'
  exact htrans (hv l hl) hll'

/-- `i` relaxed to `i'`: the same percentile, each upper limit unset in `i'` or not lower there, and
the minimum throughput unset in `i'` or not higher there. -/
structure Indicator.RelaxedTo (i i' : Indicator) : Prop where
  percentile : i'.artPercentile = i.artPercentile
  responseTime : LimitRelaxed Binary64.le i.artThresholdMs i'.artThresholdMs
  throughput : LimitRelaxed (fun t t' => Binary64.le t' t) i.minTps i'.minTps
  errorRate : LimitRelaxed Binary64.le i.maxErrorRate i'.maxErrorRate
  usage : ∀ m, LimitRelaxed Binary64.le (i.limit m) (i'.limit m)

theorem Indicator.hasUsageThresholds_iff (k : Indicator) :
    k.hasUsageThresholds = true ↔ ∃ m, (k.limit m).isSome := by
  simp only [Indicator.hasUsageThresholds, Bool.or_eq_true]
  constructor
  · rintro (((h | h) | h) | h)
    exacts [⟨.cpu, h⟩, ⟨.memory, h⟩, ⟨.disk, h⟩, ⟨.network, h⟩]
  · rintro ⟨m, hm⟩
    cases m <;> simp_all [Indicator.limit]

namespace Verdict

variable {i i' : Indicator} {sum : SampleSummary} {s : RunSamples} {ids : List Int}

section Checks

theorem bind_check_eq_none_iff {o : Option Binary64} {violated : Binary64 → Bool}
    {message : Binary64 → String} :
    (o.bind fun l => if violated l then some (message l) else none) = none ↔
      ∀ l ∈ o, violated l = false := by
  cases o with
  | none => simp
  | some l => cases h : violated l <;> simp [h]

theorem responseTimeFailure_eq_none_iff :
    responseTimeFailure i sum = none ↔
      ∀ l ∈ i.artThresholdMs, Binary64.le (sum.value i.artPercentile) l = true := by
  simp only [responseTimeFailure, bind_check_eq_none_iff, Binary64.lt_eq_false_iff_le]

theorem throughputLow_eq_none_iff :
    throughputLow i sum = none ↔ ∀ l ∈ i.minTps, Binary64.le l sum.tps = true := by
  simp only [throughputLow, bind_check_eq_none_iff, Binary64.lt_eq_false_iff_le]

theorem errorRateHigh_eq_none_iff :
    errorRateHigh i sum = none ↔ ∀ l ∈ i.maxErrorRate, Binary64.le sum.errorRate l = true := by
  simp only [errorRateHigh, bind_check_eq_none_iff, Binary64.lt_eq_false_iff_le]

theorem throughputFailure_eq_none_iff :
    throughputFailure i sum = none ↔
      responseTimeFailure i sum = none ∧ throughputLow i sum = none ∧ errorRateHigh i sum = none := by
  unfold throughputFailure
  rw [List.findSome?_eq_none_iff]
  simp only [List.mem_cons, List.not_mem_nil, or_false, forall_eq_or_imp, forall_eq, id]

/-- The three checks that pass under an indicator pass under it relaxed. -/
theorem throughputFailure_relaxed (h : i.RelaxedTo i') (hf : throughputFailure i sum = none) :
    throughputFailure i' sum = none := by
  obtain ⟨hart, htps, herr⟩ := throughputFailure_eq_none_iff.mp hf
  rw [responseTimeFailure_eq_none_iff] at hart
  rw [throughputLow_eq_none_iff] at htps
  rw [errorRateHigh_eq_none_iff] at herr
  refine throughputFailure_eq_none_iff.mpr ⟨?_, ?_, ?_⟩
  · rw [responseTimeFailure_eq_none_iff, h.percentile]
    exact LimitRelaxed.keeps (r := Binary64.le) Binary64.le_trans h.responseTime hart
  · rw [throughputLow_eq_none_iff]
    exact LimitRelaxed.keeps (r := fun t t' => Binary64.le t' t)
      (fun hab hbc => Binary64.le_trans hbc hab) h.throughput htps
  · rw [errorRateHigh_eq_none_iff]
    exact LimitRelaxed.keeps (r := Binary64.le) Binary64.le_trans h.errorRate herr

theorem requiredInputs_some_ok {j : Indicator} (hin : requiredInputs (some i) s = .ok (j, sum))
    (i' : Indicator) : requiredInputs (some i') s = .ok (i', sum) := by
  unfold requiredInputs at hin ⊢
  rcases hsum : s.summary with _ | sum'
  · simp [hsum] at hin
  · cases he : sum'.isEmpty
    · simp only [hsum, he] at hin ⊢
      cases hin
      rfl
    · simp [hsum, he] at hin

end Checks

section Usage

theorem hasUsageThresholds_of_relaxed (h : i.RelaxedTo i') (hu : i'.hasUsageThresholds = true) :
    i.hasUsageThresholds = true := by
  obtain ⟨m, hm⟩ := (Indicator.hasUsageThresholds_iff i').mp hu
  obtain ⟨l', hl'⟩ := Option.isSome_iff_exists.mp hm
  obtain ⟨l, hl, -⟩ := h.usage m l' hl'
  exact (Indicator.hasUsageThresholds_iff i).mpr ⟨m, Option.isSome_iff_exists.mpr ⟨l, hl⟩⟩

theorem within_relaxed {u : UsageSummary} {m : UsageMetric} (h : i.RelaxedTo i')
    (hw : u.Within i m) : u.Within i' m := by
  intro l' hl'
  obtain ⟨l, hl, hll'⟩ := h.usage m l' hl'
  obtain ⟨mean, hmean, hle⟩ := hw l hl
  refine ⟨mean, hmean, ?_⟩
  rw [Binary64.lt_eq_false_iff_le] at hle ⊢
  exact Binary64.le_trans hle hll'

end Usage

theorem judgePerformance_relaxed (h : i.RelaxedTo i')
    (hpass : (judgePerformance (some i) s).passed = true) :
    (judgePerformance (some i') s).passed = true := by
  obtain ⟨j, sum, hin, hf⟩ := judgePerformance_passed_iff.mp hpass
  obtain rfl : j = i := (Option.some.inj (requiredInputs_ok hin)).symm
  exact judgePerformance_passed_iff.mpr
    ⟨i', sum, requiredInputs_some_ok hin i', throughputFailure_relaxed h hf⟩

theorem judgeStability_relaxed (h : i.RelaxedTo i')
    (hpass : (judgeStability (some i) s ids).passed = true) :
    (judgeStability (some i') s ids).passed = true := by
  obtain ⟨j, sum, hin, hf, husage⟩ := judgeStability_passed_iff.mp hpass
  obtain rfl : j = i := (Option.some.inj (requiredInputs_ok hin)).symm
  refine judgeStability_passed_iff.mpr
    ⟨i', sum, requiredInputs_some_ok hin i', throughputFailure_relaxed h hf, fun hu => ?_⟩
  obtain ⟨hne, hall, hwithin⟩ := husage (hasUsageThresholds_of_relaxed h hu)
  exact ⟨hne, hall, fun u hu m => within_relaxed h (hwithin u hu m)⟩

/-- Judging is monotone in the thresholds: a run that passes under an indicator passes under every
relaxation of it, whatever its script type, status, message, samples and nodes. -/
theorem judge_passes_when_relaxed (t : ScriptType) (status : ExecutionStatus)
    (message : Option String) (s : RunSamples) (ids : List Int) {i i' : Indicator}
    (h : i.RelaxedTo i') (hpass : (judge t status message (some i) s ids).passed = true) :
    (judge t status message (some i') s ids).passed = true := by
  by_cases hst : status = .completed
  · subst hst
    cases t with
    | performance => exact judgePerformance_relaxed h hpass
    | stability => exact judgeStability_relaxed h hpass
    | functional => exact hpass
    | customized => exact hpass
  · rw [judge_unfinished hst] at hpass
    cases hpass

def strictLatency : Indicator :=
  { artThresholdMs := some (Binary64.ofNat 500), minTps := some (Binary64.ofNat 100) }

def laxLatency : Indicator := { artThresholdMs := some (Binary64.ofNat 600) }

/-- A run of ten samples, the slowest at 400 ms, at 150 requests a second. -/
def briskRun : RunSamples :=
  { summary := some { samples := 10, tps := Binary64.ofNat 150, max := Binary64.ofNat 400 } }

theorem briskRun_passes_relaxed :
    strictLatency.RelaxedTo laxLatency ∧
      (judge .performance .completed none (some strictLatency) briskRun []).passed = true ∧
      (judge .performance .completed none (some laxLatency) briskRun []).passed = true := by
  have hrelaxed : strictLatency.RelaxedTo laxLatency := by
    refine ⟨rfl, ?_, ?_, ?_, fun m => ?_⟩
    · unfold LimitRelaxed
      decide
    · simp [LimitRelaxed, laxLatency]
    · simp [LimitRelaxed, laxLatency]
    · cases m <;> simp [LimitRelaxed, laxLatency, Indicator.limit]
  have hpass : (judge .performance .completed none (some strictLatency) briskRun []).passed = true := by
    decide
  exact ⟨hrelaxed, hpass, judge_passes_when_relaxed .performance .completed none briskRun [] hrelaxed hpass⟩

end Verdict

end LoadDispatch
