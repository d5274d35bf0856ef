import Fanout.Analysis.Finish

/-!
# The finish of an analysis

* `LocalOutcome.issues`, `LocalOutcome.found`, `LocalOutcome.metrics` : what the local half reports, which
  of that the rules have found, and the figures of what was found;
* `Speaks` : a remote figure that replaces a local one;
* `advise_eq` : recommendations are fixes, then the advice that figures call for;
* `finish_law` : one law for found and failed, with an insight and without.

An empty insight is neutral (`finish_of_isEmpty`): none of its figures speaks and it adds no issue, so an absent
insight may be taken for an empty one.
-/

namespace Fanout

/-! ## Local outcomes -/

section
variable [TreeReader] {language : Language} {file : Option String} {text : String} {issues : List Issue}

/-- What is found in a source is found in its syntax tree. -/
theorem findSourceIssues_eq_ok_iff :
    findSourceIssues language file text = .ok issues ↔
      ∃ root, parse language text = .ok root ∧ findIssues root file = issues := by
  unfold findSourceIssues
  cases parse language text with
  | error e => exact ⟨nofun, fun ⟨_, h, _⟩ => nomatch h⟩
  | ok root =>
    constructor
    · rintro ⟨⟩
      exact ⟨root, rfl, rfl⟩
    · rintro ⟨_, ⟨⟩, rfl⟩
      rfl

theorem runLocal_eq_matched_iff :
    runLocal language file text = .matched issues ↔
      ∃ root, parse language text = .ok root ∧ findIssues root file = issues := by
  rw [← findSourceIssues_eq_ok_iff, runLocal]
  cases findSourceIssues language file text with
  | error e => exact ⟨nofun, nofun⟩
  | ok found => rw [LocalOutcome.ofFound, LocalOutcome.matched.injEq, Except.ok.injEq]

end

namespace LocalOutcome

/-- What is reported: the issues that were found, or the one that stands for a failure. -/
def issues : LocalOutcome → List Issue
  | matched issues => issues
  | failed issue => [issue]

/-- What the rules have found, nothing after a failure. -/
def found : LocalOutcome → List Issue
  | matched issues => issues
  | failed _ => []

/-- The figures of what was found, all zero after a failure. -/
def metrics (model : LoadTimeModel) : LocalOutcome → Metrics
  | matched issues => .synthesize issues model
  | failed _ => .zero

end LocalOutcome

/-! ## Figures -/

/-- A remote figure that says something: a finite number other than the two zeros. -/
def Speaks (x : Float) : Prop := x.isFinite = true ∧ (x == 0) = false

instance (x : Float) : Decidable (Speaks x) := inferInstanceAs (Decidable (_ ∧ _))

theorem preferRemote_eq (remote local_ : Float) :
    preferRemote remote local_ = if Speaks remote then remote else local_ := by
  have h : (remote != 0 && remote.isFinite) = true ↔ Speaks remote := by
    simp [Speaks, bne, and_comm]
  simp only [preferRemote, h]

theorem preferRemote_of_beq_zero {remote : Float} (h : (remote == 0) = true) (local_ : Float) :
    preferRemote remote local_ = local_ := by
  have hsilent : ¬Speaks remote := fun hspeaks => by
    rw [hspeaks.2] at h
    cases h
  rw [preferRemote_eq, if_neg hsilent]

/-- An empty insight overrides nothing, with zeros of either sign. -/
theorem Metrics.overriddenBy_of_isEmpty {r : Insight} (h : r.isEmpty = true) (m : Metrics) :
    m.overriddenBy r = m := by
  simp only [Insight.isEmpty, Insight.same, Bool.and_eq_true] at h
  obtain ⟨⟨⟨⟨hload, hdatabase⟩, hnetwork⟩, hpotential⟩, -⟩ := h
  rw [overriddenBy, preferRemote_of_beq_zero hload, preferRemote_of_beq_zero hdatabase,
    preferRemote_of_beq_zero hnetwork, preferRemote_of_beq_zero hpotential]

theorem Insight.additionalIssues_of_isEmpty {r : Insight} (h : r.isEmpty = true) : r.additionalIssues = [] := by
  simp only [isEmpty, same, Bool.and_eq_true] at h
  exact eq_of_beq h.2

theorem Insight.isEmpty_empty : empty.isEmpty = true := by decide

/-! ## Recommendations -/

/-- The advice that figures call for by themselves. -/
def adviceOn (m : Metrics) : List Recommendation :=
  (if m.networkRequests > batchingThreshold then [batchRequests] else []) ++
    (if m.databaseLoad > queryThreshold then [optimizeQueries] else [])

theorem advise_eq (issues : List Issue) (m : Metrics) :
    advise issues m = issues.map fixFor ++ adviceOn m := by
  rw [advise, adviceOn, List.append_assoc]

theorem adviceOn_zero : adviceOn .zero = [] := by decide

section
variable {r : Recommendation}

/-- A fix never has the title of an advice: it starts with another letter. -/
theorem fixFor_ne (h : r.title.toList.head? ≠ some 'F') (i : Issue) :
    fixFor i ≠ r := by
  rintro rfl
  exact h (by simp [fixFor])

theorem count_advise (h : r.title.toList.head? ≠ some 'F') (issues : List Issue)
    (m : Metrics) : (advise issues m).count r = (adviceOn m).count r := by
  have hfix : (issues.map fixFor).count r = 0 := by
    refine List.count_eq_zero.2 fun hr => ?_
    obtain ⟨i, -, hi⟩ := List.mem_map.1 hr
    exact fixFor_ne h i hi
  rw [advise_eq, List.count_append, hfix, Nat.zero_add]

end

theorem count_batchRequests (issues : List Issue) (m : Metrics) :
    (advise issues m).count batchRequests = if m.networkRequests > batchingThreshold then 1 else 0 := by
  have hne : (optimizeQueries == batchRequests) = false := by decide
  rw [count_advise (by decide), adviceOn]
  split <;> split <;> simp [List.count_cons, hne]

theorem count_optimizeQueries (issues : List Issue) (m : Metrics) :
    (advise issues m).count optimizeQueries = if m.databaseLoad > queryThreshold then 1 else 0 := by
  have hne : (batchRequests == optimizeQueries) = false := by decide
  rw [count_advise (by decide), adviceOn]
  split <;> split <;> simp [List.count_cons, hne]

/-! ## The law -/

/-- With an absent insight taken for the empty one, the four cases are one. -/
theorem finish_cases (outcome : LocalOutcome) (remote : Option Insight) (model : LoadTimeModel) :
    finish outcome remote model =
      ⟨outcome.issues ++ (remote.getD .empty).additionalIssues,
        (outcome.metrics model).overriddenBy (remote.getD .empty),
        advise (outcome.found ++ (remote.getD .empty).additionalIssues)
          ((outcome.metrics model).overriddenBy (remote.getD .empty))⟩ := by
  have hnone : Insight.empty.additionalIssues = [] := rfl
  cases outcome with
  | matched issues =>
    cases remote with
    | none =>
      simp only [finish, Option.getD_none, hnone, List.append_nil, Metrics.overriddenBy_of_isEmpty Insight.isEmpty_empty]
      rfl
    | some r => rfl
  | failed issue =>
    cases remote with
    | none =>
      simp only [finish, Option.getD_none, hnone, List.append_nil, Metrics.overriddenBy_of_isEmpty Insight.isEmpty_empty,
        LocalOutcome.found, LocalOutcome.metrics, LocalOutcome.issues, advise_eq, adviceOn_zero,
        List.map_nil]
    | some r => rfl

/-- An empty insight leaves a result as it is without one. -/
theorem finish_of_isEmpty {r : Insight} (h : r.isEmpty = true) (outcome : LocalOutcome) (model : LoadTimeModel) :
    finish outcome (some r) model = finish outcome none model := by
  rw [finish_cases, finish_cases, Option.getD_some, Option.getD_none, r.additionalIssues_of_isEmpty h,
    Metrics.overriddenBy_of_isEmpty h, Metrics.overriddenBy_of_isEmpty Insight.isEmpty_empty]
  rfl

theorem finish_empty (outcome : LocalOutcome) (model : LoadTimeModel) :
    finish outcome (some .empty) model = finish outcome none model :=
  finish_of_isEmpty Insight.isEmpty_empty outcome model

/-- Local issues come first and remote ones behind them. A remote figure wins where it speaks; the local one
that it is held against comes from local issues alone, so that further remote issues move no figure. Each
issue but the one that stands for a failure has its fix, in order, and behind the fixes stands what the
final figures call for. -/
theorem finish_law (outcome : LocalOutcome) (remote : Option Insight) (model : LoadTimeModel) :
    let insight := remote.getD .empty
    let locals := outcome.metrics model
    let found := outcome.found ++ insight.additionalIssues
    let result := finish outcome remote model
    result.issues = outcome.issues ++ insight.additionalIssues ∧
    result.metrics =
      { loadTime :=
          if Speaks insight.loadTimeImpact then insight.loadTimeImpact else locals.loadTime
        databaseLoad :=
          if Speaks insight.databaseEfficiency then insight.databaseEfficiency else locals.databaseLoad
        networkRequests :=
          if Speaks insight.networkOptimization then insight.networkOptimization
          else locals.networkRequests
        potentialImprovement :=
          if Speaks insight.potentialImprovement then insight.potentialImprovement
          else locals.potentialImprovement } ∧
    (∀ issues : List Issue,
      (finish outcome (some { insight with additionalIssues := issues }) model).metrics = result.metrics) ∧
    result.recommendations = advise found result.metrics ∧
    result.recommendations = found.map fixFor ++ adviceOn result.metrics ∧
    result.recommendations.count batchRequests =
      (if result.metrics.networkRequests > batchingThreshold then 1 else 0) ∧
    result.recommendations.count optimizeQueries =
      (if result.metrics.databaseLoad > queryThreshold then 1 else 0) := by
  intro insight locals found result
  have hresult : result = _ := finish_cases outcome remote model
  have hadvise : result.recommendations = advise found result.metrics := by
    rw [hresult]
  refine ⟨?_, ?_, fun issues => ?_, hadvise, ?_, ?_, ?_⟩
  · rw [hresult]
  · rw [hresult]
    simp only [Metrics.overriddenBy, preferRemote_eq]
    rfl
  · rw [hresult, finish_cases]
    rfl
  · rw [hadvise, advise_eq]
  · rw [hadvise, count_batchRequests]
  · rw [hadvise, count_optimizeQueries]

/-- After a failure a critical remote issue has its fix and moves no figure, and figures that are zero or no
number say nothing. -/
example :
    let remote : Insight :=
      { databaseEfficiency := 0.0 / 0.0, networkOptimization := -0.0, potentialImprovement := 50
        additionalIssues := [{ severity := .critical, title := "Loop" }] }
    let result := finish (.failed (errorIssue "" none)) (some remote) .perIssue
    result.issues.map (·.title) = ["Analysis Error", "Loop"] ∧
      result.recommendations.map (·.title) = ["Fix Loop"] ∧
      [result.metrics.databaseLoad, result.metrics.networkRequests, result.metrics.potentialImprovement] =
        [0, 0, 50] := by
  decide +kernel

end Fanout
