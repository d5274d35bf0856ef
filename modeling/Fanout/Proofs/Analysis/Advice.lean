import Fanout.Proofs.Analysis.Finish
import Fanout.Proofs.Decimal.Reach
import Fanout.Proofs.Pattern.Wrapping

/-!
# The advice on a tree

* `Node.awaitedMaps` : the addresses of the calls of `map` that have an await above them;
* `Rules.filter_findIssues` : each of them has its critical issue, in their order, and there are no others;
* `Metrics.exceeds_iff` : a figure that grows by a constant for each critical issue exceeds a threshold from
  some count on;
* `Metrics.batching_iff`, `Metrics.querying_iff` : from one on for batching, from four on for queries;
* `recommendations_exact` : the recommendations of a tree, as a list and by their parts.

Figures are doubles, and a product of doubles need not be exact. Counts below a power of two are computed, and
beyond it the product reaches a power of two above the threshold.
-/

namespace Fanout
namespace Node
open Branching

/-! ## Awaited calls -/

/-- Above the node at an address stands an await. -/
def HasAwaitAbove (root : Node) (p : Address) : Prop :=
  ∃ i < p.length, (subtree? root (p.take i)).any isAwait = true

instance (root : Node) (p : Address) : Decidable (HasAwaitAbove root p) :=
  inferInstanceAs (Decidable (∃ i < p.length, _))

/-- The addresses of the calls of `map` that have an await above them. -/
def awaitedMaps (root : Node) : List Address :=
  (addresses root).filter fun p => (subtree? root p).any (fun n => n.CallsMap) ∧ HasAwaitAbove root p

theorem hasAwaitAbove_cons {n c : Node} {i : Nat} (h : n.children[i]? = some c) (p : Address) :
    HasAwaitAbove n (i :: p) ↔ n.isAwait = true ∨ HasAwaitAbove c p := by
  have hbelow (j : Nat) : subtree? n ((i :: p).take (j + 1)) = subtree? c (p.take j) := by
    rw [List.take_succ_cons]
    exact subtree?_cons_of_child h _
  unfold HasAwaitAbove
  rw [List.length_cons, Nat.exists_lt_succ_left]
  simp only [hbelow]
  rfl

/-- The stack of a walk holds an await where there is one above the node. -/
theorem underAwait_visitAt {n c : Node} {p : Address} (h : subtree? n p = some c) (ancestors : List Node) :
    (visitAt ancestors n p).underAwait = true ↔ ancestors.any isAwait = true ∨ HasAwaitAbove n p := by
  induction p generalizing n ancestors with
  | nil =>
    have hnone : ¬ HasAwaitAbove n [] := fun ⟨i, hi, _⟩ => absurd hi (Nat.not_lt_zero i)
    rw [or_iff_left hnone]
    rfl
  | cons i p ih =>
    obtain ⟨b, hb, h⟩ := Option.bind_eq_some_iff.1 h
    rw [visitAt_cons hb, ih h, hasAwaitAbove_cons hb, List.any_cons, Bool.or_eq_true,
      or_comm (a := n.isAwait = true), or_assoc]

end Node

namespace Rules
open Node Branching

section
variable {file : Option String}

/-! ## Critical issues -/

/-- A property of the critical issue that the warning does not have. -/
structure TellsRepeated (f : Issue → Bool) : Prop where
  warning : ∀ place file, f (parallelWarning place file) = false
  critical : ∀ place file, f (repeatedCritical place file) = true

theorem tellsRepeated_severity : TellsRepeated (·.severity == .critical) :=
  ⟨fun _ _ => rfl, fun _ _ => rfl⟩

theorem tellsRepeated_title : TellsRepeated (·.title == repeatedTitle) :=
  ⟨fun _ _ => beq_eq_false_iff_ne.2 (show parallelTitle ≠ repeatedTitle by decide),
    fun _ _ => beq_self_eq_true repeatedTitle⟩

variable {f : Issue → Bool}

theorem TellsRepeated.filter_issuesAt (h : TellsRepeated f) (awaited : Bool) (n : Node) :
    (issuesAt file awaited n).filter f =
      if n.CallsMap ∧ awaited then [repeatedCritical n.place file] else [] := by
  unfold issuesAt
  rw [List.filter_append]
  split <;> split <;> simp [h.warning, h.critical]

/-- The critical issues are those of the awaited calls of `map`, in order. -/
theorem TellsRepeated.filter_findIssues (h : TellsRepeated f) (root : Node) :
    (findIssues root file).filter f =
      (awaitedMaps root).map fun p => repeatedCritical (visitAt [] root p).node.place file := by
  rw [findIssues_eq_flatMap, visitsBelow, List.flatMap_map, List.filter_flatMap, awaitedMaps,
    ← flatMap_ite_singleton]
  refine List.flatMap_congr fun p hp => ?_
  obtain ⟨n, hn⟩ := exists_subtree hp
  have hawait := underAwait_visitAt hn []
  have hnone : ¬ ([] : List Node).any isAwait = true := Bool.false_ne_true
  rw [or_iff_right hnone] at hawait
  simp only [h.filter_issuesAt, (visitAt_spec hn []).1, hawait, hn, Option.any_some, decide_eq_true_eq]

theorem TellsRepeated.countP_findIssues (h : TellsRepeated f) (root : Node) :
    (findIssues root file).countP f = (awaitedMaps root).length := by
  rw [List.countP_eq_length_filter, h.filter_findIssues, List.length_map]

end
end Rules

/-! ## Thresholds -/

namespace Metrics

/-- A product with a count exceeds a threshold from `least` on, if it does so below a power of two, and beyond
it the power of the product is above the threshold. -/
theorem exceeds_iff {c t : Float} {least j : Nat} {i : Int} (hc : Reaching i c) (ht : Within (i + j - 53) t)
    (hlow : -1022 ≤ i + j) (hleast : least ≤ 2 ^ j)
    (hsmall : ∀ k : Fin (2 ^ j), c * Float.ofNat k > t ↔ least ≤ k.val) (k : Nat) :
    c * Float.ofNat k > t ↔ least ≤ k := by
  by_cases hk : k < 2 ^ j
  · exact hsmall ⟨k, hk⟩
  · have hreach : 2 ^ j ≤ k := by omega
    exact iff_of_true ((hc.mul (reaching_ofNat hreach) hlow).lt ht) (by omega)

theorem batching_iff (k : Nat) (model : LoadTimeModel) :
    (ofCount k model).networkRequests > batchingThreshold ↔ 1 ≤ k :=
  exceeds_iff (c := requestsPerCritical) (t := batchingThreshold) (j := 1) (i := 3)
    (by decide +kernel) (by decide +kernel) (by decide) (by decide) (by decide +kernel) k

theorem querying_iff (k : Nat) (model : LoadTimeModel) :
    (ofCount k model).databaseLoad > queryThreshold ↔ 4 ≤ k :=
  exceeds_iff (c := databaseLoadPerCritical) (t := queryThreshold) (j := 3) (i := 0)
    (by decide +kernel) (by decide +kernel) (by decide) (by decide) (by decide +kernel) k

end Metrics

/-! ## Recommendations -/

namespace Recommendation

/-- A recommendation that stands for an issue. -/
def IsFix (r : Recommendation) : Prop := ∃ title, r.title = "Fix " ++ title

/-- A recommendation that a figure calls for. -/
def IsAdvice (r : Recommendation) : Prop :=
  r.title = "Implement Request Batching" ∨ r.title = "Optimize Database Queries"

theorem IsAdvice.not_isFix {r : Recommendation} (h : r.IsAdvice) : ¬ r.IsFix := by
  rintro ⟨title, hfix⟩
  have hletter : r.title.toList.head? = some 'F' := by
    rw [hfix, String.toList_append]
    rfl
  rcases h with h | h <;> rw [h] at hletter <;> exact absurd hletter (by decide)

end Recommendation

section
open Rules
variable (issues : List Issue)

theorem isFix_of_mem {r : Recommendation} (h : r ∈ issues.map fixFor) : r.IsFix := by
  obtain ⟨i, -, rfl⟩ := List.mem_map.1 h
  exact ⟨i.title, rfl⟩

theorem countP_title_fixes {title : String} (h : title.toList.head? ≠ some 'F') :
    (issues.map fixFor).countP (·.title = title) = 0 := by
  refine List.countP_eq_zero.2 fun r hr htitle => ?_
  obtain ⟨i, -, rfl⟩ := List.mem_map.1 hr
  rw [← of_decide_eq_true htitle] at h
  exact h (by simp [fixFor])

/-- The example code of a fix tells the title of its issue. -/
theorem exampleCode_eq_iff (title : String) :
    exampleCode title = batchFetchExample ↔ title = repeatedTitle := by
  have hempty : "" ≠ batchFetchExample := by simp [batchFetchExample]
  unfold exampleCode
  split
  · exact iff_of_true rfl ‹_›
  · exact iff_of_false hempty ‹_›

theorem countP_exampleCode_fixes :
    (issues.map fixFor).countP (·.exampleCode = batchFetchExample) =
      issues.countP (·.title == repeatedTitle) := by
  rw [List.countP_map]
  refine List.countP_congr fun i _ => ?_
  simp only [Function.comp_apply, fixFor, decide_eq_true_eq, exampleCode_eq_iff, beq_iff_eq]

theorem description_fix_ne {root : Node} {file : Option String} {i : Issue} (h : i ∈ findIssues root file) :
    (fixFor i).description ≠ "" := by
  obtain ⟨place, rfl | rfl⟩ := place_of_mem_findIssues file h
  · exact show "Consider using batch fetching instead of multiple parallel requests" ≠ "" by decide
  · exact show "Use batch fetching to reduce database calls" ≠ "" by decide

end

theorem isAdvice_of_mem (k : Nat) :
    ∀ r ∈ (if 1 ≤ k then [batchRequests] else []) ++ (if 4 ≤ k then [optimizeQueries] else []),
      r.IsAdvice := by
  intro r hr
  rcases List.mem_append.1 hr with hr | hr
  · exact .inl (List.mem_singleton.1 (List.mem_ite_nil_right.1 hr).2 ▸ rfl)
  · exact .inr (List.mem_singleton.1 (List.mem_ite_nil_right.1 hr).2 ▸ rfl)

theorem pairwise_fixes_advice {fixes advice : List Recommendation} (hfixes : ∀ r ∈ fixes, r.IsFix)
    (hadvice : ∀ r ∈ advice, r.IsAdvice) :
    (fixes ++ advice).Pairwise fun a b => a.IsAdvice → ¬ b.IsFix := by
  refine List.pairwise_append.2 ⟨?_, ?_, ?_⟩
  · exact List.pairwise_of_forall_mem_list fun a ha _ _ h => absurd (hfixes a ha) h.not_isFix
  · exact List.pairwise_of_forall_mem_list fun _ _ b hb _ => (hadvice b hb).not_isFix
  · exact fun a ha _ _ h => absurd (hfixes a ha) h.not_isFix

theorem recommendations_eq (root : Node) (file : Option String) (model : LoadTimeModel) :
    (finish (.matched (findIssues root file)) none model).recommendations =
      (findIssues root file).map fixFor ++
        ((if 1 ≤ root.awaitedMaps.length then [batchRequests] else []) ++
          if 4 ≤ root.awaitedMaps.length then [optimizeQueries] else []) := by
  have hcount : countOf .critical (findIssues root file) = root.awaitedMaps.length :=
    Rules.tellsRepeated_severity.countP_findIssues root
  show advise _ (.synthesize (findIssues root file) model) = _
  rw [advise_eq, adviceOn, Metrics.synthesize, hcount]
  simp only [Metrics.batching_iff, Metrics.querying_iff]

/-- Take a tree with `k` calls of `map` under an await, and no insight. Behind the fixes of its issues, which
stand in the order of the issues, comes batching from one call on, and behind that the queries from four calls
on. Just `k` fixes have the example of a batched fetch, and each has a description. Neither advice comes
twice, or before a fix. -/
theorem recommendations_exact (root : Node) (file : Option String) (model : LoadTimeModel) :
    let issues := findIssues root file
    let k := root.awaitedMaps.length
    let recommendations := (finish (.matched issues) none model).recommendations
    let fixes := issues.map fixFor
    recommendations =
      fixes ++ (if 1 ≤ k then [batchRequests] else []) ++ (if 4 ≤ k then [optimizeQueries] else []) ∧
    fixes.map (·.title) = issues.map (fun i => "Fix " ++ i.title) ∧
    fixes.countP (·.exampleCode = batchFetchExample) = k ∧
    (∀ r ∈ fixes, r.description ≠ "") ∧
    recommendations.length = issues.length + (if 1 ≤ k then 1 else 0) + (if 4 ≤ k then 1 else 0) ∧
    recommendations.countP (·.title = "Implement Request Batching") = (if 1 ≤ k then 1 else 0) ∧
    recommendations.countP (·.title = "Optimize Database Queries") = (if 4 ≤ k then 1 else 0) ∧
    recommendations.Pairwise fun a b => a.IsAdvice → ¬ b.IsFix := by
  intro issues k recommendations fixes
  have hrecommendations : recommendations = _ := recommendations_eq root file model
  rw [hrecommendations]
  refine ⟨(List.append_assoc ..).symm, ?_, ?_, ?_, ?_, ?_, ?_, ?_⟩
  · rw [List.map_map]
    rfl
  · rw [countP_exampleCode_fixes]
    exact Rules.tellsRepeated_title.countP_findIssues root
  · intro r hr
    obtain ⟨i, hi, rfl⟩ := List.mem_map.1 hr
    exact description_fix_ne hi
  · rw [List.length_append, List.length_append, List.length_map, Nat.add_assoc]
    split <;> split <;> rfl
  · rw [List.countP_append, countP_title_fixes _ (by decide), List.countP_append]
    split <;> split <;> rfl
  · rw [List.countP_append, countP_title_fixes _ (by decide), List.countP_append]
    split <;> split <;> rfl
  · exact pairwise_fixes_advice (fun r => isFix_of_mem issues) (isAdvice_of_mem k)

/-- The statement `await [a.map(f), b.map(f), c.map(f), d.map(f)]`. -/
def fourReads : Node :=
  .await ⟨1, 0⟩ (.other ⟨1, 6⟩ "array" (["a", "b", "c", "d"].map fun name =>
    .call ⟨1, 7⟩ (.member ⟨1, 7⟩ (.identifier ⟨1, 7⟩ name) "map") [.identifier ⟨1, 13⟩ "f"]))

/-- Four awaited calls have their four fixes, and both pieces of advice behind them. -/
theorem recommendations_exact_fourReads :
    let recommendations := (finish (.matched (findIssues fourReads none)) none .perIssue).recommendations
    fourReads.awaitedMaps.length = 4 ∧ recommendations.length = 6 ∧
      recommendations.map (·.title) =
        List.replicate 4 "Fix N+1 Query Pattern Detected" ++
          ["Implement Request Batching", "Optimize Database Queries"] ∧
      (recommendations.take 4).countP (·.exampleCode = batchFetchExample) = 4 := by
  intro recommendations
  have hcount : countOf .critical (findIssues fourReads none) = fourReads.awaitedMaps.length :=
    Rules.tellsRepeated_severity.countP_findIssues fourReads
  have hcalls : fourReads.awaitedMaps.length = 4 := hcount.symm.trans (by decide)
  have hissues : (findIssues fourReads none).length = 4 := by decide
  obtain ⟨hlist, htitles, hexamples, -, hlength, -⟩ := recommendations_exact fourReads none .perIssue
  rw [hcalls] at hlist hexamples hlength
  rw [hissues] at hlength
  have hfixes : recommendations.take 4 = (findIssues fourReads none).map fixFor := by
    show List.take 4 (finish _ _ _).recommendations = _
    rw [hlist, List.append_assoc, List.take_left' (by rw [List.length_map, hissues])]
  refine ⟨hcalls, hlength, ?_, ?_⟩
  · show List.map _ (finish _ _ _).recommendations = _
    rw [hlist, List.append_assoc, List.map_append, htitles]
    decide
  · rw [hfixes, hexamples]

end Fanout
