import Mathlib
import LoadDispatch.Verdict.Judge

/-!
The usage stage of a stability judgement. A stability run is judged as a performance run first; past
that, under usage limits, it passes exactly when some node reported usage, every node reported a row
and every row keeps every limited metric within its limit, and a failure names the first fault
(`UsageFault`).
-/
namespace LoadDispatch

/-- A usage row keeps a metric within the indicator's limit: the metric is unlimited, or the row
has a mean for it that is not above the limit. -/
def UsageSummary.Within (u : UsageSummary) (i : Indicator) (m : UsageMetric) : Prop :=
  ∀ lim ∈ i.limit m, ∃ mean ∈ u.mean m, Binary64.lt lim mean = false

instance (u : UsageSummary) (i : Indicator) (m : UsageMetric) : Decidable (u.Within i m) :=
  inferInstanceAs (Decidable (∀ lim ∈ i.limit m, ∃ mean ∈ u.mean m, _))

def Reports (usage : List UsageSummary) (n : Int) : Prop := ∃ u ∈ usage, u.nodeId = n

def UsageMetric.checkOrder : List UsageMetric := [.cpu, .memory, .disk, .network]

/-- `n` is the first node of the run, in the run's order, without a usage row. -/
def FirstUnreported (usage : List UsageSummary) (ids : List Int) (n : Int) : Prop :=
  ∃ pre post, ids = pre ++ n :: post ∧ (∀ k ∈ pre, Reports usage k) ∧ ¬ Reports usage n

/-- `u` is the first row, in report order, with a metric out of its limit, and `m` the first such
metric of `u` in check order. -/
def FirstOutOfLimit (i : Indicator) (usage : List UsageSummary) (u : UsageSummary)
    (m : UsageMetric) : Prop :=
  (∃ before after, usage = before ++ u :: after ∧ ∀ w ∈ before, ∀ m', w.Within i m') ∧
    ∃ ms ms', UsageMetric.checkOrder = ms ++ m :: ms' ∧ (∀ m' ∈ ms, u.Within i m') ∧
      ¬ u.Within i m

/-- The node and metric a failed usage stage names, by its first fault: with no usage rows, neither;
else the first node without a row; else the first row out of a limit and its first metric out of its
limit. -/
inductive UsageFault (i : Indicator) (usage : List UsageSummary) (ids : List Int) :
    Option Int → Option UsageMetric → Prop
  | noUsage : usage = [] → UsageFault i usage ids none none
  | unreported {n : Int} : usage ≠ [] → FirstUnreported usage ids n →
      UsageFault i usage ids (some n) none
  | outOfLimit {u : UsageSummary} {m : UsageMetric} : usage ≠ [] → (∀ k ∈ ids, Reports usage k) →
      FirstOutOfLimit i usage u m → UsageFault i usage ids (some u.nodeId) (some m)

section First

variable {α : Type} {p : α → Prop} {l : List α}

theorem eq_of_first {pre post pre' post' : List α} {a a' : α}
    (h : l = pre ++ a :: post) (hpre : ∀ x ∈ pre, ¬ p x) (ha : p a)
    (h' : l = pre' ++ a' :: post') (hpre' : ∀ x ∈ pre', ¬ p x) (ha' : p a') : a = a' := by
  classical
  have hfind : ∀ {q r : List α} {b : α}, l = q ++ b :: r → (∀ x ∈ q, ¬ p x) → p b →
      l.find? (fun x => decide (p x)) = some b := by
    intro q r b hl hq hb
    rw [hl, List.find?_eq_some_iff_append]
    exact ⟨by simpa using hb, q, r, rfl, fun x hx => by simpa using hq x hx⟩
  exact Option.some.inj ((hfind h hpre ha).symm.trans (hfind h' hpre' ha'))

end First

theorem FirstUnreported.unique {usage : List UsageSummary} {ids : List Int} {n n' : Int}
    (h : FirstUnreported usage ids n) (h' : FirstUnreported usage ids n') : n = n' := by
  obtain ⟨pre, post, hids, hpre, hn⟩ := h
  obtain ⟨pre', post', hids', hpre', hn'⟩ := h'
  exact eq_of_first (p := fun k => ¬ Reports usage k) hids (fun k hk => not_not.mpr (hpre k hk)) hn
    hids' (fun k hk => not_not.mpr (hpre' k hk)) hn'

theorem FirstOutOfLimit.unique {i : Indicator} {usage : List UsageSummary} {u u' : UsageSummary}
    {m m' : UsageMetric} (h : FirstOutOfLimit i usage u m) (h' : FirstOutOfLimit i usage u' m') :
    u = u' ∧ m = m' := by
  obtain ⟨⟨before, after, hu, hbefore⟩, ms, ms', hm, hms, hum⟩ := h
  obtain ⟨⟨before', after', hu', hbefore'⟩, ns, ns', hm', hns, hum'⟩ := h'
  have huu : u = u' :=
    eq_of_first (p := fun w => ¬ ∀ m, w.Within i m) hu (fun w hw => not_not.mpr (hbefore w hw))
      (fun hall => hum (hall m)) hu' (fun w hw => not_not.mpr (hbefore' w hw))
      (fun hall => hum' (hall m'))
  subst huu
  exact ⟨rfl, eq_of_first (p := fun k => ¬ u.Within i k) hm (fun k hk => not_not.mpr (hms k hk))
    hum hm' (fun k hk => not_not.mpr (hns k hk)) hum'⟩

/-- A usage stage's fault is determined by the run: the indicator, the rows and the nodes. -/
theorem UsageFault.unique {i : Indicator} {usage : List UsageSummary} {ids : List Int}
    {n n' : Option Int} {m m' : Option UsageMetric} (h : UsageFault i usage ids n m)
    (h' : UsageFault i usage ids n' m') : n = n' ∧ m = m' := by
  cases h with
  | noUsage he =>
    cases h' with
    | noUsage => exact ⟨rfl, rfl⟩
    | unreported hne => exact absurd he hne
    | outOfLimit hne => exact absurd he hne
  | unreported hne hn =>
    cases h' with
    | noUsage he => exact absurd he hne
    | unreported _ hn' => exact ⟨congrArg some (hn.unique hn'), rfl⟩
    | outOfLimit _ hall =>
      obtain ⟨pre, post, hids, -, hnot⟩ := hn
      exact absurd (hall _ (by simp [hids])) hnot
  | outOfLimit hne hall hu =>
    cases h' with
    | noUsage he => exact absurd he hne
    | unreported _ hn' =>
      obtain ⟨pre, post, hids, -, hnot⟩ := hn'
      exact absurd (hall _ (by simp [hids])) hnot
    | outOfLimit _ _ hu' =>
      obtain ⟨rfl, rfl⟩ := hu.unique hu'
      exact ⟨rfl, rfl⟩

namespace Verdict

variable {ind : Option Indicator} {s : RunSamples} {ids : List Int} {i : Indicator}
  {sum : SampleSummary}

section Checks

theorem requiredInputs_ok (h : requiredInputs ind s = .ok (i, sum)) : ind = some i := by
  unfold requiredInputs at h
  split at h
  · cases h
  · split at h
    · split at h
      · cases h
      · cases h
        rfl
    · cases h

theorem requiredInputs_error {v : Verdict} (h : requiredInputs ind s = .error v) :
    v.passed = false ∧ v.usageFailedNodeId = none ∧ v.failedMetric = none := by
  unfold requiredInputs at h
  split at h
  · cases h
    exact ⟨rfl, rfl, rfl⟩
  · split at h
    · split at h <;> cases h
      exact ⟨rfl, rfl, rfl⟩
    · cases h
      exact ⟨rfl, rfl, rfl⟩

theorem judgePerformance_of_error {v : Verdict} (h : requiredInputs ind s = .error v) :
    judgePerformance ind s = v := by
  simp only [judgePerformance, h]

theorem judgeStability_of_error {v : Verdict} (h : requiredInputs ind s = .error v) :
    judgeStability ind s ids = v := by
  simp only [judgeStability, h]

theorem judgePerformance_of_failure {r : String} (h : requiredInputs ind s = .ok (i, sum))
    (hr : throughputFailure i sum = some r) : judgePerformance ind s = fail r := by
  simp only [judgePerformance, h, hr]

theorem judgeStability_of_failure {r : String} (h : requiredInputs ind s = .ok (i, sum))
    (hr : throughputFailure i sum = some r) : judgeStability ind s ids = fail r := by
  simp only [judgeStability, h, hr]

theorem judgePerformance_of_checks (h : requiredInputs ind s = .ok (i, sum))
    (hr : throughputFailure i sum = none) : judgePerformance ind s = pass := by
  simp only [judgePerformance, h, hr]

theorem judgePerformance_unblamed (ind : Option Indicator) (s : RunSamples) :
    (judgePerformance ind s).usageFailedNodeId = none ∧
      (judgePerformance ind s).failedMetric = none := by
  rcases h : requiredInputs ind s with v | ⟨i, sum⟩
  · obtain ⟨-, hn, hm⟩ := requiredInputs_error h
    rw [judgePerformance_of_error h]
    exact ⟨hn, hm⟩
  · cases hr : throughputFailure i sum with
    | none => rw [judgePerformance_of_checks h hr]; exact ⟨rfl, rfl⟩
    | some r => rw [judgePerformance_of_failure h hr]; exact ⟨rfl, rfl⟩

theorem judgePerformance_passed_iff :
    (judgePerformance ind s).passed = true ↔
      ∃ i sum, requiredInputs ind s = .ok (i, sum) ∧ throughputFailure i sum = none := by
  rcases h : requiredInputs ind s with v | ⟨i, sum⟩
  · rw [judgePerformance_of_error h, (requiredInputs_error h).1]
    simp
  · cases hr : throughputFailure i sum with
    | none => simp [judgePerformance_of_checks h hr, hr, pass]
    | some r => simp [judgePerformance_of_failure h hr, hr, fail]

theorem judgeStability_of_performance_fails (h : (judgePerformance ind s).passed = false) :
    judgeStability ind s ids = judgePerformance ind s := by
  rcases hin : requiredInputs ind s with v | ⟨i, sum⟩
  · rw [judgeStability_of_error hin, judgePerformance_of_error hin]
  · cases hr : throughputFailure i sum with
    | none => simp [judgePerformance_of_checks hin hr, pass] at h
    | some r => rw [judgeStability_of_failure hin hr, judgePerformance_of_failure hin hr]

/-- A run that did not complete fails for its unfinished reason, whatever its script type. -/
theorem judge_unfinished {t : ScriptType} {status : ExecutionStatus} {message : Option String}
    (h : status ≠ .completed) :
    judge t status message ind s ids = fail (unfinishedReason status message) := by
  have hne : (status != .completed) = true := bne_iff_ne.mpr h
  simp only [judge, hne, if_true]

end Checks

section Usage

def metricBreach (i : Indicator) (u : UsageSummary) (m : UsageMetric) :
    Option (UsageMetric × Option Binary64 × Binary64) :=
  match u.mean m, i.limit m with
  | some mean, some lim => if Binary64.lt lim mean then some (m, some mean, lim) else none
  | none, some lim => some (m, none, lim)
  | _, none => none

theorem usageBreach_eq (i : Indicator) (u : UsageSummary) :
    usageBreach i u = UsageMetric.checkOrder.findSome? (metricBreach i u) := rfl

theorem metricBreach_eq_none_iff (u : UsageSummary) (m : UsageMetric) :
    metricBreach i u m = none ↔ u.Within i m := by
  unfold metricBreach UsageSummary.Within
  cases hl : i.limit m with
  | none => cases u.mean m <;> simp
  | some lim =>
    cases hm : u.mean m with
    | none => simp
    | some mean => by_cases hlt : Binary64.lt lim mean <;> simp [hlt]

theorem metricBreach_metric {u : UsageSummary} {m : UsageMetric}
    {b : UsageMetric × Option Binary64 × Binary64} (h : metricBreach i u m = some b) : b.1 = m := by
  unfold metricBreach at h
  split at h
  · split at h
    · cases h
      rfl
    · cases h
  · cases h
    rfl
  · cases h

theorem mem_checkOrder (m : UsageMetric) : m ∈ UsageMetric.checkOrder := by
  cases m <;> decide

theorem usageBreach_eq_none_iff (u : UsageSummary) :
    usageBreach i u = none ↔ ∀ m, u.Within i m := by
  rw [usageBreach_eq, List.findSome?_eq_none_iff]
  simp only [metricBreach_eq_none_iff]
  exact ⟨fun h m => h m (mem_checkOrder m), fun h m _ => h m⟩

theorem usageBreach_eq_some {u : UsageSummary} {b : UsageMetric × Option Binary64 × Binary64}
    (h : usageBreach i u = some b) :
    ∃ ms ms', UsageMetric.checkOrder = ms ++ b.1 :: ms' ∧ (∀ m ∈ ms, u.Within i m) ∧
      ¬ u.Within i b.1 := by
  rw [usageBreach_eq] at h
  obtain ⟨ms, m, ms', hsplit, hm, hpre⟩ := List.findSome?_eq_some_iff.mp h
  rw [metricBreach_metric hm]
  refine ⟨ms, ms', hsplit, fun m' hm' => (metricBreach_eq_none_iff u m').mp (hpre m' hm'), ?_⟩
  rw [← metricBreach_eq_none_iff, hm]
  exact Option.some_ne_none b

theorem usageFailure_eq_none_iff (us : List UsageSummary) :
    usageFailure i us = none ↔ ∀ u ∈ us, ∀ m, u.Within i m := by
  induction us with
  | nil => simp [usageFailure]
  | cons u rest ih =>
    rw [List.forall_mem_cons]
    rcases hb : usageBreach i u with _ | b
    · simp only [usageFailure, hb, ih, (usageBreach_eq_none_iff u).mp hb, implies_true, true_and]
    · have hu : ¬ ∀ m, u.Within i m := by rw [← usageBreach_eq_none_iff, hb]; simp
      obtain ⟨m, _ | mean, lim⟩ := b <;> simp [usageFailure, hb, hu]

theorem usageFailure_eq_some {us : List UsageSummary} {v : Verdict}
    (h : usageFailure i us = some v) :
    v.passed = false ∧ ∃ u m, FirstOutOfLimit i us u m ∧ v.usageFailedNodeId = some u.nodeId ∧
      v.failedMetric = some m := by
  induction us with
  | nil => simp [usageFailure] at h
  | cons u rest ih =>
    rcases hb : usageBreach i u with _ | ⟨m, mean, lim⟩
    · -- a row within its limits is passed over
      rw [usageFailure, hb] at h
      obtain ⟨hpassed, w, m, ⟨⟨before, after, hrest, hbefore⟩, hm⟩, hn, hmetric⟩ := ih h
      refine ⟨hpassed, w, m, ⟨⟨u :: before, after, by rw [hrest]; rfl, ?_⟩, hm⟩, hn, hmetric⟩
      rw [List.forall_mem_cons]
      exact ⟨(usageBreach_eq_none_iff u).mp hb, hbefore⟩
    · -- the first row with a breach is blamed, with its breach's metric
      obtain ⟨ms, ms', hsplit, hms, hm⟩ := usageBreach_eq_some hb
      have hfirst : FirstOutOfLimit i (u :: rest) u m :=
        ⟨⟨[], rest, rfl, by simp⟩, ms, ms', hsplit, hms, hm⟩
      cases mean
      all_goals
        simp only [usageFailure, hb, Option.some.injEq] at h
        subst h
        exact ⟨rfl, u, m, hfirst, rfl, rfl⟩

theorem find?_unreported_eq_some {usage : List UsageSummary} {n : Int}
    (h : ids.find? (fun k => !usage.any (·.nodeId == k)) = some n) : FirstUnreported usage ids n := by
  obtain ⟨hn, pre, post, hids, hpre⟩ := List.find?_eq_some_iff_append.mp h
  refine ⟨pre, post, hids, fun k hk => ?_, ?_⟩
  · simpa [Reports] using hpre k hk
  · simpa [Reports] using hn

theorem find?_unreported_eq_none_iff {usage : List UsageSummary} :
    ids.find? (fun k => !usage.any (·.nodeId == k)) = none ↔ ∀ k ∈ ids, Reports usage k := by
  rw [List.find?_eq_none]
  simp [Reports]

/-- Past the required inputs and the three checks, an indicator without usage limits passes the
run. -/
theorem judgeStability_of_unlimited (h : requiredInputs ind s = .ok (i, sum))
    (hr : throughputFailure i sum = none) (hu : i.hasUsageThresholds = false) :
    judgeStability ind s ids = pass := by
  simp only [judgeStability, h, hr, hu, Bool.not_false, if_true]

theorem judgeStability_of_no_usage (h : requiredInputs ind s = .ok (i, sum))
    (hr : throughputFailure i sum = none) (hu : i.hasUsageThresholds = true) (he : s.usage = []) :
    judgeStability ind s ids = fail "node metrics missing" := by
  simp only [judgeStability, h, hr, hu, he, Bool.not_true, Bool.false_eq_true, if_false,
    List.isEmpty_nil, if_true]

theorem judgeStability_of_unreported {n : Int} (h : requiredInputs ind s = .ok (i, sum))
    (hr : throughputFailure i sum = none) (hu : i.hasUsageThresholds = true) (he : s.usage ≠ [])
    (hn : ids.find? (fun k => !s.usage.any (·.nodeId == k)) = some n) :
    judgeStability ind s ids =
      ⟨false, some ("node metrics missing: node " ++ toString n ++ " reported no usage"),
        some n, none⟩ := by
  have he' : s.usage.isEmpty = false := List.isEmpty_eq_false_iff.mpr he
  simp only [judgeStability, h, hr, hu, he', hn, Bool.not_true, Bool.false_eq_true, if_false]

theorem judgeStability_of_reported (h : requiredInputs ind s = .ok (i, sum))
    (hr : throughputFailure i sum = none) (hu : i.hasUsageThresholds = true) (he : s.usage ≠ [])
    (hn : ids.find? (fun k => !s.usage.any (·.nodeId == k)) = none) :
    judgeStability ind s ids = (usageFailure i s.usage).getD pass := by
  have he' : s.usage.isEmpty = false := List.isEmpty_eq_false_iff.mpr he
  simp only [judgeStability, h, hr, hu, he', hn, Bool.not_true, Bool.false_eq_true, if_false]

/-- Past the required inputs and the three checks, under usage limits, the run passes exactly when
some node reported usage, every node reported a row and every row keeps every metric within its
limit; a failure names the first fault. -/
theorem judgeStability_usage (h : requiredInputs ind s = .ok (i, sum))
    (hr : throughputFailure i sum = none) (hu : i.hasUsageThresholds = true) :
    ((judgeStability ind s ids).passed = true ↔
      s.usage ≠ [] ∧ (∀ k ∈ ids, Reports s.usage k) ∧ ∀ u ∈ s.usage, ∀ m, u.Within i m) ∧
    ((judgeStability ind s ids).passed = false →
      UsageFault i s.usage ids (judgeStability ind s ids).usageFailedNodeId
        (judgeStability ind s ids).failedMetric) := by
  by_cases he : s.usage = []
  · rw [judgeStability_of_no_usage h hr hu he]
    exact ⟨by simp [fail, he], fun _ => .noUsage he⟩
  rcases hn : ids.find? (fun k => !s.usage.any (·.nodeId == k)) with _ | n
  · have hall := find?_unreported_eq_none_iff.mp hn
    rw [judgeStability_of_reported h hr hu he hn]
    rcases hf : usageFailure i s.usage with _ | v
    · rw [Option.getD_none]
      exact ⟨iff_of_true rfl ⟨he, hall, (usageFailure_eq_none_iff s.usage).mp hf⟩,
        fun hp => absurd hp (by decide)⟩
    · obtain ⟨hpassed, u, m, hfirst, hnode, hmetric⟩ := usageFailure_eq_some hf
      have hout : ¬ ∀ u ∈ s.usage, ∀ m, u.Within i m := by
        rw [← usageFailure_eq_none_iff, hf]
        simp
      rw [Option.getD_some, hnode, hmetric, hpassed]
      exact ⟨iff_of_false Bool.false_ne_true fun hall' => hout hall'.2.2,
        fun _ => .outOfLimit he hall hfirst⟩
  · have hfirst := find?_unreported_eq_some hn
    rw [judgeStability_of_unreported h hr hu he hn]
    refine ⟨?_, fun _ => .unreported he hfirst⟩
    obtain ⟨pre, post, hids, -, hnot⟩ := hfirst
    simp only [Bool.false_eq_true, false_iff, not_and]
    exact fun _ hall _ => hnot (hall n (by simp [hids]))

theorem judgeStability_passed_iff :
    (judgeStability ind s ids).passed = true ↔
      ∃ i sum, requiredInputs ind s = .ok (i, sum) ∧ throughputFailure i sum = none ∧
        (i.hasUsageThresholds = true →
          s.usage ≠ [] ∧ (∀ k ∈ ids, Reports s.usage k) ∧ ∀ u ∈ s.usage, ∀ m, u.Within i m) := by
  rcases hin : requiredInputs ind s with v | ⟨i, sum⟩
  · rw [judgeStability_of_error hin, (requiredInputs_error hin).1]
    simp
  cases hr : throughputFailure i sum with
  | some r => simp [judgeStability_of_failure hin hr, hr, fail]
  | none =>
    cases hu : i.hasUsageThresholds with
    | false => simp [judgeStability_of_unlimited hin hr hu, hr, hu, pass]
    | true =>
      have hstage : ((judgeStability ind s ids).passed = true ↔ _) ∧ _ := judgeStability_usage hin hr hu
      simpa [hr, hu] using hstage.1

end Usage

/-- Stability judging refines performance judging: a failed performance judgement is the stability
judgement and names no node or metric; past it, the run passes exactly when the usage stage does,
and a failure names the first fault in the stage's order. -/
theorem stability_refines_performance (ind : Option Indicator) (s : RunSamples) (ids : List Int) :
    ((judgePerformance ind s).passed = false →
      judgeStability ind s ids = judgePerformance ind s ∧
        (judgePerformance ind s).usageFailedNodeId = none ∧
        (judgePerformance ind s).failedMetric = none) ∧
    ∀ i ∈ ind, (judgePerformance ind s).passed = true →
      (i.hasUsageThresholds = false → (judgeStability ind s ids).passed = true) ∧
      (i.hasUsageThresholds = true →
        ((judgeStability ind s ids).passed = true ↔
          s.usage ≠ [] ∧ (∀ k ∈ ids, Reports s.usage k) ∧ ∀ u ∈ s.usage, ∀ m, u.Within i m) ∧
        ((judgeStability ind s ids).passed = false →
          UsageFault i s.usage ids (judgeStability ind s ids).usageFailedNodeId
            (judgeStability ind s ids).failedMetric)) := by
  refine ⟨fun h => ⟨judgeStability_of_performance_fails h, judgePerformance_unblamed ind s⟩, ?_⟩
  intro i hi hpass
  obtain ⟨i', sum, hin, hr⟩ := judgePerformance_passed_iff.mp hpass
  obtain rfl : i' = i := Option.some.inj ((requiredInputs_ok hin).symm.trans hi)
  refine ⟨fun hu => ?_, judgeStability_usage hin hr⟩
  rw [judgeStability_of_unlimited hin hr hu]
  rfl

def cpuCapped : Indicator := { cpuUsage := some (Binary64.ofNat 80) }

/-- A run of a hundred samples on nodes 1 and 2, where node 1 reported 90% CPU and node 2 no row. -/
def hotNodeRun : RunSamples :=
  { summary := some { samples := 100 }, usage := [{ nodeId := 1, cpuMean := some (Binary64.ofNat 90) }] }

theorem hotNodeRun_blames_unreported_node :
    (judgePerformance (some cpuCapped) hotNodeRun).passed = true ∧
      cpuCapped.hasUsageThresholds = true ∧
      (judgeStability (some cpuCapped) hotNodeRun [1, 2]).passed = false ∧
      UsageFault cpuCapped hotNodeRun.usage [1, 2]
        (judgeStability (some cpuCapped) hotNodeRun [1, 2]).usageFailedNodeId
        (judgeStability (some cpuCapped) hotNodeRun [1, 2]).failedMetric := by
  have hperf : (judgePerformance (some cpuCapped) hotNodeRun).passed = true := by decide
  have hfail : (judgeStability (some cpuCapped) hotNodeRun [1, 2]).passed = false := by decide
  obtain ⟨-, hstage⟩ := (stability_refines_performance (some cpuCapped) hotNodeRun [1, 2]).2
    cpuCapped rfl hperf
  exact ⟨hperf, rfl, hfail, (hstage rfl).2 hfail⟩

end Verdict

end LoadDispatch
