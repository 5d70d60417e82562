import LoadDispatch.Proofs.StabilityJudgement

/-!
A functional run is judged as a whole over its case samples and case by case over the samples of
each name. When every case is enabled, every sample names a case and every case has a sample, the
two judgements agree.
-/
namespace LoadDispatch

/-- `x` is the first sample, in report order, that did not succeed. -/
def FirstFailing (samples : List CaseSample) (x : CaseSample) : Prop :=
  ∃ pre post, samples = pre ++ x :: post ∧ (∀ y ∈ pre, y.success = some true) ∧
    x.success ≠ some true

namespace Verdict

variable {samples : List CaseSample} {status : ExecutionStatus} {message : Option String}

theorem samplePassed_eq_true_iff (c : CaseSample) :
    samplePassed c = true ↔ c.success = some true := by
  simp [samplePassed]

theorem samplePassed_eq_false_iff (c : CaseSample) :
    samplePassed c = false ↔ c.success ≠ some true := by
  simp [samplePassed]

section Search

theorem find?_failing_eq_none_iff :
    samples.find? (fun c => !samplePassed c) = none ↔ ∀ y ∈ samples, y.success = some true := by
  rw [List.find?_eq_none]
  simp [samplePassed_eq_true_iff]

theorem find?_failing_eq_some_iff {x : CaseSample} :
    samples.find? (fun c => !samplePassed c) = some x ↔ FirstFailing samples x := by
  rw [List.find?_eq_some_iff_append]
  constructor
  · rintro ⟨hx, pre, post, hs, hpre⟩
    exact ⟨pre, post, hs, fun y hy => by simpa [samplePassed_eq_true_iff] using hpre y hy,
      by simpa [samplePassed_eq_false_iff] using hx⟩
  · rintro ⟨pre, post, hs, hpre, hx⟩
    exact ⟨by simpa [samplePassed_eq_false_iff] using hx, pre, post, hs,
      fun y hy => by simpa [samplePassed_eq_true_iff] using hpre y hy⟩

theorem firstFailing_filter_name {x : CaseSample} (h : FirstFailing samples x) :
    FirstFailing (samples.filter (·.caseName == x.caseName)) x := by
  obtain ⟨pre, post, rfl, hpre, hx⟩ := h
  refine ⟨pre.filter (·.caseName == x.caseName), post.filter (·.caseName == x.caseName), ?_,
    fun y hy => hpre y (List.mem_filter.mp hy).1, hx⟩
  rw [List.filter_append, List.filter_cons_of_pos (by simp)]

end Search

section Functional

theorem judgeFunctional_of_first {x : CaseSample} (h : FirstFailing samples x) :
    judgeFunctional samples message = fail (caseFailureMessage x) := by
  have hfind := find?_failing_eq_some_iff.mpr h
  obtain ⟨pre, post, hs, -, -⟩ := h
  have hne : samples.isEmpty = false := by simp [hs]
  simp only [judgeFunctional, hne, hfind, Bool.false_eq_true, if_false]

theorem judgeFunctional_of_all (hne : samples ≠ []) (hall : ∀ y ∈ samples, y.success = some true) :
    judgeFunctional samples message = pass := by
  have hne' : samples.isEmpty = false := List.isEmpty_eq_false_iff.mpr hne
  simp only [judgeFunctional, hne', find?_failing_eq_none_iff.mpr hall, Bool.false_eq_true,
    if_false]

/-- A functional run with samples passes exactly when every sample succeeded. -/
theorem judgeFunctional_passed_iff (hne : samples ≠ []) :
    (judgeFunctional samples message).passed = true ↔ ∀ y ∈ samples, y.success = some true := by
  rcases h : samples.find? (fun c => !samplePassed c) with _ | x
  · have hall := find?_failing_eq_none_iff.mp h
    rw [judgeFunctional_of_all hne hall]
    exact iff_of_true rfl hall
  · obtain ⟨pre, post, hs, -, hx⟩ := find?_failing_eq_some_iff.mp h
    rw [judgeFunctional_of_first (find?_failing_eq_some_iff.mp h)]
    exact iff_of_false Bool.false_ne_true fun hall => hx (hall x (by simp [hs]))

theorem judgeCase_of_first {name : String} {x : CaseSample}
    (h : FirstFailing (samples.filter (·.caseName == name)) x) :
    judgeCase name samples = (some false, some (caseFailureMessage x)) := by
  have hfind := find?_failing_eq_some_iff.mpr h
  obtain ⟨pre, post, hs, -, -⟩ := h
  have hne : (samples.filter (·.caseName == name)).isEmpty = false := by simp [hs]
  simp only [judgeCase, hne, hfind, Bool.false_eq_true, if_false]

theorem judgeCase_of_all {name : String} (hne : samples.filter (·.caseName == name) ≠ [])
    (hall : ∀ y ∈ samples.filter (·.caseName == name), y.success = some true) :
    judgeCase name samples = (some true, none) := by
  have hne' : (samples.filter (·.caseName == name)).isEmpty = false :=
    List.isEmpty_eq_false_iff.mpr hne
  simp only [judgeCase, hne', find?_failing_eq_none_iff.mpr hall, Bool.false_eq_true, if_false]

/-- A case with samples passes exactly when every sample of its name succeeded. -/
theorem judgeCase_passed_iff {name : String} (hne : samples.filter (·.caseName == name) ≠ []) :
    (judgeCase name samples).1 = some true ↔
      ∀ y ∈ samples, y.caseName = name → y.success = some true := by
  have hfilter : (∀ y ∈ samples.filter (·.caseName == name), y.success = some true) ↔
      ∀ y ∈ samples, y.caseName = name → y.success = some true := by
    simp [List.mem_filter]
  rw [← hfilter]
  rcases h : (samples.filter (·.caseName == name)).find? (fun c => !samplePassed c) with _ | x
  · have hall := find?_failing_eq_none_iff.mp h
    rw [judgeCase_of_all hne hall]
    exact iff_of_true rfl hall
  · have hx := find?_failing_eq_some_iff.mp h
    rw [judgeCase_of_first hx]
    obtain ⟨pre, post, hs, -, hfail⟩ := hx
    exact iff_of_false (by simp) fun hall => hfail (hall x (by simp [hs]))

end Functional

section Cases

variable {cases : List ExecutionCase}

theorem mem_judgeCases {v : CaseVerdict} (hv : v ∈ judgeCases status message cases samples)
    (henabled : ∀ c ∈ cases, c.enabled = true) :
    ∃ c ∈ cases, v.caseName = c.caseName ∧
      (status ≠ .completed → v.passed = some false ∧ v.reason = some (unfinishedReason status message)) ∧
      (status = .completed → (v.passed, v.reason) = judgeCase c.caseName samples) := by
  obtain ⟨c, hc, rfl⟩ := List.mem_map.mp hv
  refine ⟨c, hc, rfl, fun hst => ?_, fun hst => ?_⟩
  · have hne : (status != .completed) = true := bne_iff_ne.mpr hst
    simp [henabled c hc, hne]
  · subst hst
    simp [henabled c hc]

theorem exists_judgeCases {c : ExecutionCase} (hc : c ∈ cases) :
    ∃ v ∈ judgeCases status message cases samples, v.caseName = c.caseName :=
  ⟨_, List.mem_map_of_mem hc, rfl⟩

theorem filter_name_ne_nil (hcovered : ∀ c ∈ cases, ∃ x ∈ samples, x.caseName = c.caseName)
    {c : ExecutionCase} (hc : c ∈ cases) : samples.filter (·.caseName == c.caseName) ≠ [] := by
  obtain ⟨x, hx, hname⟩ := hcovered c hc
  exact List.ne_nil_of_mem (List.mem_filter.mpr ⟨hx, by simp [hname]⟩)

variable (henabled : ∀ c ∈ cases, c.enabled = true)
include henabled

/-- Of a completed run whose samples each name a case, every case passes exactly when every
sample succeeded. -/
theorem judgeCases_passed_iff (hcovered : ∀ c ∈ cases, ∃ x ∈ samples, x.caseName = c.caseName)
    (hnamed : ∀ x ∈ samples, ∃ c ∈ cases, c.caseName = x.caseName) :
    (∀ v ∈ judgeCases .completed message cases samples, v.passed = some true) ↔
      ∀ y ∈ samples, y.success = some true := by
  constructor
  · intro hall y hy
    obtain ⟨c, hc, hname⟩ := hnamed y hy
    have hcase : ∃ v ∈ judgeCases .completed message cases samples, v.caseName = c.caseName :=
      exists_judgeCases hc
    obtain ⟨v, hv, hvname⟩ := hcase
    obtain ⟨c', hc', hcname, -, hverdict⟩ := mem_judgeCases hv henabled
    have hpassed := hall v hv
    rw [(Prod.mk.inj (hverdict rfl)).1] at hpassed
    exact (judgeCase_passed_iff (filter_name_ne_nil hcovered hc')).mp hpassed y hy
      (hname.symm.trans (hvname.symm.trans hcname))
  · intro hall v hv
    obtain ⟨c, hc, -, -, hverdict⟩ := mem_judgeCases hv henabled
    rw [(Prod.mk.inj (hverdict rfl)).1]
    exact (judgeCase_passed_iff (filter_name_ne_nil hcovered hc)).mpr fun y hy _ => hall y hy

/-- Of a completed run, the case named by the first failing sample fails for that sample. -/
theorem judgeCases_reason_of_first {x : CaseSample} (hx : FirstFailing samples x) :
    ∀ v ∈ judgeCases .completed message cases samples, v.caseName = x.caseName →
      v.reason = some (caseFailureMessage x) := by
  intro v hv hvname
  obtain ⟨c, -, hcname, -, hverdict⟩ := mem_judgeCases hv henabled
  have hcase := judgeCase_of_first (firstFailing_filter_name hx)
  rw [← hvname, hcname] at hcase
  rw [hcase] at hverdict
  exact (Prod.mk.inj (hverdict rfl)).2

end Cases

theorem judge_functional_completed {ind : Option Indicator} {s : RunSamples} {ids : List Int} :
    judge .functional .completed message ind s ids = judgeFunctional s.cases message := rfl

/-- Whole-run and per-case functional verdicts agree when every case is enabled, every sample names
a case and every case has a sample: the run passes exactly when every case does, and a failing run
fails with the reason of the case its first failing sample names. -/
theorem functional_verdicts_agree (status : ExecutionStatus) (message : Option String)
    (ind : Option Indicator) (s : RunSamples) (ids : List Int) {cases : List ExecutionCase}
    (hne : cases ≠ []) (henabled : ∀ c ∈ cases, c.enabled = true)
    (hnamed : ∀ x ∈ s.cases, ∃ c ∈ cases, c.caseName = x.caseName)
    (hcovered : ∀ c ∈ cases, ∃ x ∈ s.cases, x.caseName = c.caseName) :
    ((judge .functional status message ind s ids).passed = true ↔
      ∀ v ∈ judgeCases status message cases s.cases, v.passed = some true) ∧
    (status = .completed → (judge .functional status message ind s ids).passed = false →
      ∃ x, FirstFailing s.cases x ∧
        (∃ v ∈ judgeCases status message cases s.cases, v.caseName = x.caseName) ∧
        ∀ v ∈ judgeCases status message cases s.cases, v.caseName = x.caseName →
          v.reason = (judge .functional status message ind s ids).reason) ∧
    (status ≠ .completed →
      (judge .functional status message ind s ids).passed = false ∧
      (judge .functional status message ind s ids).reason = some (unfinishedReason status message) ∧
      ∀ v ∈ judgeCases status message cases s.cases,
        v.passed = some false ∧ v.reason = some (unfinishedReason status message)) := by
  obtain ⟨c₀, hc₀⟩ := List.exists_mem_of_ne_nil cases hne
  by_cases hst : status = .completed
  · subst hst
    have hrun : s.cases ≠ [] := fun h => filter_name_ne_nil hcovered hc₀ (by simp [h])
    rw [judge_functional_completed, judgeFunctional_passed_iff hrun,
      judgeCases_passed_iff henabled hcovered hnamed]
    refine ⟨Iff.rfl, fun _ hfail => ?_, fun h => absurd rfl h⟩
    rcases hfind : s.cases.find? (fun c => !samplePassed c) with _ | x
    · rw [judgeFunctional_of_all hrun (find?_failing_eq_none_iff.mp hfind)] at hfail
      cases hfail
    have hx := find?_failing_eq_some_iff.mp hfind
    have hmem : x ∈ s.cases := by
      obtain ⟨pre, post, hs, -⟩ := hx
      simp [hs]
    obtain ⟨c, hc, hname⟩ := hnamed x hmem
    have hcase : ∃ v ∈ judgeCases .completed message cases s.cases, v.caseName = c.caseName :=
      exists_judgeCases hc
    obtain ⟨v, hv, hvname⟩ := hcase
    rw [judgeFunctional_of_first hx]
    exact ⟨x, hx, ⟨v, hv, hvname.trans hname⟩, judgeCases_reason_of_first henabled hx⟩
  · rw [judge_unfinished hst]
    have hcases : ∀ v ∈ judgeCases status message cases s.cases,
        v.passed = some false ∧ v.reason = some (unfinishedReason status message) := fun v hv => by
      obtain ⟨c, -, -, hunfinished, -⟩ := mem_judgeCases hv henabled
      exact hunfinished hst
    have hcase : ∃ v ∈ judgeCases status message cases s.cases, v.caseName = c₀.caseName :=
      exists_judgeCases hc₀
    obtain ⟨v, hv, -⟩ := hcase
    have hfails : ¬ ∀ v ∈ judgeCases status message cases s.cases, v.passed = some true :=
      fun hall => by simpa [(hcases v hv).1] using hall v hv
    exact ⟨iff_of_false Bool.false_ne_true hfails, fun h => absurd h hst, fun _ => ⟨rfl, rfl, hcases⟩⟩

def loginLogoutCases : List ExecutionCase := [⟨1, "login", true⟩, ⟨2, "logout", true⟩]

/-- A completed run whose logout timed out between two logins. -/
def logoutTimedOut : RunSamples :=
  { cases := [{ caseName := "login", success := some true },
              { caseName := "logout", success := some false, message := some "timeout" },
              { caseName := "login", success := none }] }

theorem logoutTimedOut_verdicts_agree :
    loginLogoutCases ≠ [] ∧ (∀ c ∈ loginLogoutCases, c.enabled = true) ∧
    (∀ x ∈ logoutTimedOut.cases, ∃ c ∈ loginLogoutCases, c.caseName = x.caseName) ∧
    (∀ c ∈ loginLogoutCases, ∃ x ∈ logoutTimedOut.cases, x.caseName = c.caseName) ∧
    (∃ x, FirstFailing logoutTimedOut.cases x ∧
      (∃ v ∈ judgeCases .completed none loginLogoutCases logoutTimedOut.cases,
        v.caseName = x.caseName) ∧
      ∀ v ∈ judgeCases .completed none loginLogoutCases logoutTimedOut.cases,
        v.caseName = x.caseName →
          v.reason = (judge .functional .completed none none logoutTimedOut []).reason) := by
  have hne : loginLogoutCases ≠ [] := by simp [loginLogoutCases]
  have henabled : ∀ c ∈ loginLogoutCases, c.enabled = true := by simp [loginLogoutCases]
  have hnamed : ∀ x ∈ logoutTimedOut.cases, ∃ c ∈ loginLogoutCases, c.caseName = x.caseName := by
    simp [logoutTimedOut, loginLogoutCases]
  have hcovered : ∀ c ∈ loginLogoutCases, ∃ x ∈ logoutTimedOut.cases, x.caseName = c.caseName := by
    simp [logoutTimedOut, loginLogoutCases]
  have hfail : (judge .functional .completed none none logoutTimedOut []).passed = false := by decide
  exact ⟨hne, henabled, hnamed, hcovered,
    (functional_verdicts_agree .completed none none logoutTimedOut [] hne henabled hnamed
      hcovered).2.1 rfl hfail⟩

end Verdict

end LoadDispatch
