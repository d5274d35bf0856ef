import Mathlib.Data.List.Perm.Subperm
import Fanout.Impact.Metrics
import Fanout.Proofs.Pattern.Findings
import Fanout.Proofs.Tree.Preorder

/-!
# How the two rules combine

* `yieldOf` : the issues that a step of the walk adds;
* `findings` : the issues of a tree, each with the address of the node that it was found at;
* `length_issuesAt_le` : a call adds one issue at most, since no call has both shapes;
* `findings_succ` : behind the warning of an awaited `Promise.all` comes the issue of its `map`;
* `length_awaitedParallels_le` : so each awaited `Promise.all` has a critical issue of its own;
* `findings_paired` : all of this together, for every tree.

Between a call of `Promise.all` and its first argument the walk meets only the callee, and nothing is found
there.
-/

namespace Fanout

namespace Node

def isCall : Node → Bool
  | call _ _ _ => true
  | _ => false

theorem CallsMap.isCall {n : Node} (h : n.CallsMap) : n.isCall = true := by
  obtain ⟨_, _, _, _, rfl⟩ := h
  rfl

theorem CallsAllOnMap.isCall {n : Node} (h : n.CallsAllOnMap) : n.isCall = true := by
  obtain ⟨_, _, _, _, _, rfl, -⟩ := h
  rfl

/-- The property of the callee is `all` or `map`, not both. -/
theorem CallsAllOnMap.not_callsMap {n : Node} (h : n.CallsAllOnMap) : ¬ n.CallsMap := by
  obtain ⟨_, _, _, _, _, rfl, -⟩ := h
  rintro ⟨_, _, _, _, h⟩
  injection h with _ hcallee
  injection hcallee with _ _ hproperty
  exact absurd hproperty (by decide)

end Node

namespace Rules
open Node Branching

/-! ## At a node -/

section
variable (file : Option String)

theorem issuesAt_of_callsAllOnMap {n : Node} (h : n.CallsAllOnMap) (awaited : Bool) :
    issuesAt file awaited n = [parallelWarning n.place file] := by
  simp only [issuesAt, if_pos h, h.not_callsMap, false_and, if_false, List.append_nil]

theorem issuesAt_of_callsMap {n : Node} (h : n.CallsMap) (awaited : Bool) :
    issuesAt file awaited n = if awaited then [repeatedCritical n.place file] else [] := by
  have hall : ¬ n.CallsAllOnMap := fun hall => hall.not_callsMap h
  simp only [issuesAt, if_neg hall, h, true_and, List.nil_append]

theorem length_issuesAt_le (awaited : Bool) (n : Node) :
    (issuesAt file awaited n).length ≤ if n.isCall then 1 else 0 := by
  by_cases hall : n.CallsAllOnMap
  · rw [issuesAt_of_callsAllOnMap file hall, if_pos hall.isCall]
    exact Nat.le_refl 1
  · by_cases hmap : n.CallsMap
    · rw [issuesAt_of_callsMap file hmap, if_pos hmap.isCall]
      cases awaited
      · exact Nat.zero_le 1
      · exact Nat.le_refl 1
    · simp only [issuesAt, if_neg hall, hmap, false_and, if_false]
      exact Nat.zero_le _

theorem callsAllOnMap_of_mem_issuesAt {n : Node} {awaited : Bool} {i : Issue}
    (h : i ∈ issuesAt file awaited n) (hcode : i.code = "PROMISE_ALL_MAP") :
    n.CallsAllOnMap ∧ i = parallelWarning n.place file := by
  rcases List.mem_append.1 h with h | h
  · obtain ⟨hall, h⟩ := List.mem_ite_nil_right.1 h
    exact ⟨hall, List.mem_singleton.1 h⟩
  · obtain ⟨-, h⟩ := List.mem_ite_nil_right.1 h
    rw [List.mem_singleton.1 h] at hcode
    exact absurd hcode (show "N_PLUS_ONE_QUERY" ≠ "PROMISE_ALL_MAP" by decide)

/-- The issues that a step of the walk adds, in the order in which they are reported. -/
def yieldOf (v : Visit) : List Issue := ((visitor file).meet [] v).reverse

theorem yieldOf_eq (v : Visit) : yieldOf file v = issuesAt file v.underAwait v.node := by
  rw [yieldOf, meet_visitor, List.append_nil, List.reverse_reverse]

end

/-! ## In a tree -/

/-- An issue and the address of the node that it was found at. -/
structure Finding where
  address : Address
  issue : Issue

/-- The issues of a tree in the order of a walk, with their addresses. -/
def findings (root : Node) (file : Option String) : List Finding :=
  (addresses root).flatMap fun q => (yieldOf file (visitAt [] root q)).map (Finding.mk q)

section
variable {root : Node} {file : Option String}

theorem map_issue_findings (root : Node) (file : Option String) :
    (findings root file).map Finding.issue = findIssues root file := by
  rw [findIssues_eq_flatMap, visitsBelow, List.flatMap_map, findings, List.map_flatMap]
  refine List.flatMap_congr fun q _ => ?_
  rw [List.map_map, yieldOf_eq]
  exact List.map_id _

theorem mem_findings {f : Finding} :
    f ∈ findings root file ↔
      f.address ∈ addresses root ∧ f.issue ∈ yieldOf file (visitAt [] root f.address) := by
  rw [findings, List.mem_flatMap]
  constructor
  · rintro ⟨q, hq, h⟩
    obtain ⟨i, hi, rfl⟩ := List.mem_map.1 h
    exact ⟨hq, hi⟩
  · rintro ⟨hq, hi⟩
    exact ⟨f.address, hq, List.mem_map.2 ⟨f.issue, hi, rfl⟩⟩

/-- No two issues are found at one node, so their addresses are in strict order. -/
theorem pairwise_findings (root : Node) (file : Option String) :
    ((findings root file).map Finding.address).Pairwise (· < ·) := by
  rw [List.pairwise_map, findings, List.pairwise_flatMap]
  constructor
  · intro q _
    have hlength := length_issuesAt_le file (visitAt [] root q).underAwait (visitAt [] root q).node
    rw [← yieldOf_eq] at hlength
    match yieldOf file (visitAt [] root q), hlength with
    | [], _ => exact List.Pairwise.nil
    | [i], _ => exact List.pairwise_singleton _ _
    | _ :: _ :: _, hlength =>
      simp only [List.length_cons] at hlength
      split at hlength <;> omega
  · refine (addresses_pairwise_lt root).imp fun hlt f hf g hg => ?_
    obtain ⟨_, -, rfl⟩ := List.mem_map.1 hf
    obtain ⟨_, -, rfl⟩ := List.mem_map.1 hg
    exact hlt

theorem length_flatMap_le_countP {α β : Type} {f : α → List β} {p : α → Bool}
    (h : ∀ a, (f a).length ≤ if p a then 1 else 0) (l : List α) :
    (l.flatMap f).length ≤ l.countP p := by
  induction l with
  | nil => exact Nat.le_refl 0
  | cons a l ih =>
    have ha := h a
    rw [List.flatMap_cons, List.length_append, List.countP_cons]
    omega

theorem length_findIssues_le (root : Node) (file : Option String) :
    (findIssues root file).length ≤ root.visits.countP (·.node.isCall) := by
  rw [findIssues_eq_flatMap, visits_eq]
  exact length_flatMap_le_countP (fun v => length_issuesAt_le file v.underAwait v.node) _

theorem yieldOf_visitAt {n : Node} {q : Address} (hq : subtree? root q = some n) :
    yieldOf file (visitAt [] root q) = issuesAt file (visitAt [] root q).underAwait n := by
  rw [yieldOf_eq, (visitAt_spec hq []).1]

/-! ## At a call of `Promise.all` -/

section
variable {q : Address} {p m r : Location} {first : Node} {rest : List Node}
  (hq : subtree? root q = some (.call p (.member m (.identifier r "Promise") "all") (first :: rest)))
include hq

theorem subtree?_first : subtree? root (q ++ [1]) = some first := by
  rw [subtree?_append, hq]
  rfl

/-- A call is no await, so its first argument lies below an await if the call does. -/
theorem yieldOf_first (hmap : first.CallsMap) :
    yieldOf file (visitAt [] root (q ++ [1])) =
      if (visitAt [] root q).underAwait then [repeatedCritical first.place file] else [] := by
  rw [yieldOf_visitAt (subtree?_first hq), issuesAt_of_callsMap file hmap, visitAt_append hq]
  rfl

/-- Nothing is found in the callee. -/
theorem address_ne_callee {f : Finding} (hf : f ∈ findings root file) (u : Address) :
    f.address ≠ q ++ 0 :: u := by
  intro hu
  obtain ⟨hmem, hissue⟩ := mem_findings.1 hf
  obtain ⟨n, hn⟩ := exists_subtree hmem
  rw [yieldOf_visitAt hn] at hissue
  rw [hu, subtree?_append, hq] at hn
  suffices hcall : n.isCall = false by
    have hlength := length_issuesAt_le file (visitAt [] root f.address).underAwait n
    rw [hcall] at hlength
    rw [List.length_eq_zero_iff.1 (Nat.le_zero.1 hlength)] at hissue
    cases hissue
  match u, hn with
  | [], hn => cases hn; rfl
  | [0], hn => cases hn; rfl
  | 0 :: _ :: _, hn => cases hn
  | (_ + 1) :: _, hn => cases hn

/-- Behind the warning at a call below an await comes the issue of its first argument. -/
theorem findings_succ (hmap : first.CallsMap) (hawait : (visitAt [] root q).underAwait = true)
    {k : Nat} {i : Issue} (hk : (findings root file)[k]? = some ⟨q, i⟩) :
    (findings root file)[k + 1]? = some ⟨q ++ [1], repeatedCritical first.place file⟩ := by
  have hyield : yieldOf file (visitAt [] root (q ++ [1])) = [repeatedCritical first.place file] := by
    rw [yieldOf_first hq hmap, if_pos hawait]
  have hnext : ((findings root file).map Finding.address)[k + 1]? = some (q ++ [1]) := by
    refine getElem?_succ_of_between (pairwise_findings root file) (p := q) ?_ ?_ ?_ ?_
    · rw [List.getElem?_map, hk]
      rfl
    · have hf : ⟨q ++ [1], repeatedCritical first.place file⟩ ∈ findings root file := by
        refine mem_findings.2 ⟨mem_addresses_of_subtree (subtree?_first hq), ?_⟩
        rw [hyield]
        exact List.mem_singleton_self _
      exact List.mem_map_of_mem hf
    · exact lt_of_isPrefix (List.prefix_append q [1]) (by simp)
    · intro s hs hlt hlt'
      obtain ⟨f, hf, rfl⟩ := List.mem_map.1 hs
      obtain ⟨j, u, hj, hu⟩ := exists_of_lt_child hlt hlt'
      obtain rfl : j = 0 := by omega
      exact address_ne_callee hq hf u hu
  rw [List.getElem?_map, Option.map_eq_some_iff] at hnext
  obtain ⟨f, hf, haddress⟩ := hnext
  have hissue := (mem_findings.1 (List.mem_of_getElem? hf)).2
  rw [haddress, hyield, List.mem_singleton] at hissue
  rw [hf, ← haddress, ← hissue]

end

/-! ## Awaited calls of `Promise.all` -/

/-- The addresses of the calls of `Promise.all` over a `map` that lie below an await. -/
def awaitedParallels (root : Node) : List Address :=
  (addresses root).filter fun q =>
    (visitAt [] root q).node.CallsAllOnMap ∧ (visitAt [] root q).underAwait

theorem length_awaitedParallels (root : Node) :
    (awaitedParallels root).length = root.visits.countP fun v => v.node.CallsAllOnMap ∧ v.underAwait := by
  rw [awaitedParallels, ← List.countP_eq_length_filter, visits_eq, visitsBelow, List.countP_map]
  rfl

theorem mem_findings_of_mem_awaitedParallels (file : Option String) {q : Address}
    (h : q ∈ awaitedParallels root) :
    ∃ f ∈ findings root file, f.address = q ++ [1] ∧ f.issue.severity = .critical := by
  rw [awaitedParallels, List.mem_filter, decide_eq_true_iff] at h
  obtain ⟨hq, hall, hawait⟩ := h
  obtain ⟨n, hn⟩ := exists_subtree hq
  rw [(visitAt_spec hn []).1] at hall
  obtain ⟨p, m, r, first, rest, rfl, hmap⟩ := hall
  refine ⟨⟨q ++ [1], repeatedCritical first.place file⟩, ?_, rfl, rfl⟩
  refine mem_findings.2 ⟨mem_addresses_of_subtree (subtree?_first hn), ?_⟩
  rw [yieldOf_first hn hmap, if_pos hawait]
  exact List.mem_singleton_self _

/-- Each of them is charged to its first argument, which has a critical issue. -/
theorem length_awaitedParallels_le (root : Node) (file : Option String) :
    (awaitedParallels root).length ≤ countOf .critical (findIssues root file) := by
  have hnodup : ((awaitedParallels root).map (· ++ [1])).Nodup := by
    refine ((addresses_nodup root).filter _).map fun _ _ h => ?_
    exact List.append_cancel_right h
  have hsubset : (awaitedParallels root).map (· ++ [1]) ⊆
      ((findings root file).filter (·.issue.severity == .critical)).map Finding.address := by
    intro s hs
    obtain ⟨q, hq, rfl⟩ := List.mem_map.1 hs
    obtain ⟨f, hf, haddress, hcritical⟩ := mem_findings_of_mem_awaitedParallels file hq
    exact List.mem_map.2 ⟨f, List.mem_filter.2 ⟨hf, beq_iff_eq.2 hcritical⟩, haddress⟩
  have hlength := (List.subperm_of_subset hnodup hsubset).length_le
  rw [List.length_map, List.length_map, ← List.countP_eq_length_filter] at hlength
  rw [countOf, ← map_issue_findings, List.countP_map]
  exact hlength

end

/-- The findings are the issues of the tree in their order. No step of the walk gives issues of both rules,
so there are no more issues than calls. At a warning of `Promise.all` stands a call whose first argument is a
call of `map`. If an await lies above it, the next issue is that of the first argument, and otherwise nothing
is found there. So in the metrics each awaited `Promise.all` counts as one critical issue. -/
theorem findings_paired (root : Node) (file : Option String) :
    (findings root file).map Finding.issue = findIssues root file ∧
    (∀ v : Visit, ¬ ((∃ i ∈ yieldOf file v, i.code = "PROMISE_ALL_MAP") ∧
      ∃ j ∈ yieldOf file v, j.code = "N_PLUS_ONE_QUERY")) ∧
    (findIssues root file).length ≤ root.visits.countP (·.node.isCall) ∧
    (∀ k q i, (findings root file)[k]? = some ⟨q, i⟩ → i.code = "PROMISE_ALL_MAP" →
      ∃ place callee first rest, subtree? root q = some (.call place callee (first :: rest)) ∧
        i = parallelWarning place file ∧ subtree? root (q ++ [1]) = some first ∧
        ((visitAt [] root q).underAwait = true →
          (findings root file)[k + 1]? = some ⟨q ++ [1], repeatedCritical first.place file⟩) ∧
        ((visitAt [] root q).underAwait = false → ∀ f ∈ findings root file, f.address ≠ q ++ [1])) ∧
    ∃ others, countOf .critical (findIssues root file) =
        (root.visits.countP fun v => v.node.CallsAllOnMap ∧ v.underAwait) + others ∧
      ∀ model, Metrics.synthesize (findIssues root file) model =
        Metrics.ofCount ((root.visits.countP fun v => v.node.CallsAllOnMap ∧ v.underAwait) + others)
          model := by
  refine ⟨map_issue_findings root file, ?_, length_findIssues_le root file, ?_, ?_⟩
  · rintro v ⟨⟨i, hi, hcode⟩, j, hj, hcode'⟩
    rw [yieldOf_eq] at hi hj
    obtain ⟨hall, -⟩ := callsAllOnMap_of_mem_issuesAt file hi hcode
    rw [issuesAt_of_callsAllOnMap file hall, List.mem_singleton] at hj
    rw [hj] at hcode'
    exact absurd hcode' (show "PROMISE_ALL_MAP" ≠ "N_PLUS_ONE_QUERY" by decide)
  · intro k q i hk hcode
    obtain ⟨hmem, hi⟩ := mem_findings.1 (List.mem_of_getElem? hk)
    obtain ⟨n, hn⟩ := exists_subtree hmem
    rw [yieldOf_visitAt hn] at hi
    obtain ⟨⟨p, m, r, first, rest, rfl, hmap⟩, rfl⟩ := callsAllOnMap_of_mem_issuesAt file hi hcode
    refine ⟨p, _, first, rest, hn, rfl, subtree?_first hn, fun hawait => ?_, fun hawait f hf he => ?_⟩
    · exact findings_succ hn hmap hawait hk
    · have hissue := (mem_findings.1 hf).2
      rw [he, yieldOf_first hn hmap, hawait] at hissue
      cases hissue
  · rw [← length_awaitedParallels]
    obtain ⟨others, hothers⟩ := Nat.exists_eq_add_of_le (length_awaitedParallels_le root file)
    refine ⟨others, hothers, fun model => ?_⟩
    rw [Metrics.synthesize, hothers]

/-- The statement `await Promise.all(ids.map(load))`. -/
def awaitedParallel : Node :=
  .other ⟨1, 0⟩ "expression_statement"
    [.await ⟨1, 0⟩ (.call ⟨1, 6⟩ (.member ⟨1, 6⟩ (.identifier ⟨1, 6⟩ "Promise") "all")
      [.call ⟨1, 18⟩ (.member ⟨1, 18⟩ (.identifier ⟨1, 18⟩ "ids") "map")
        [.identifier ⟨1, 26⟩ "load"]])]

/-- The warning is found first, at the call, and the issue of its argument comes next. -/
theorem findings_paired_awaitedParallel :
    (findings awaitedParallel none)[0]? = some ⟨[0, 0], promiseAllMap ⟨1, 6⟩ none⟩ ∧
      (promiseAllMap ⟨1, 6⟩ none).code = "PROMISE_ALL_MAP" ∧
      (visitAt [] awaitedParallel [0, 0]).underAwait = true ∧
      (findings awaitedParallel none)[1]? = some ⟨[0, 0, 1], awaitedMap ⟨1, 18⟩ none⟩ := by
  have hfirst : (findings awaitedParallel none)[0]? = some ⟨[0, 0], promiseAllMap ⟨1, 6⟩ none⟩ := by
    simp only [findings, awaitedParallel, addresses_eq (Node.call _ _ _), addresses_eq (Node.member _ _ _),
      addresses_eq (Node.await _ _), addresses_eq (Node.identifier _ _), addresses_eq (Node.other _ _ _),
      Branching.children, Node.children, List.zipIdx_cons, List.zipIdx_nil, List.flatMap_cons,
      List.flatMap_nil]
    rfl
  obtain ⟨-, -, -, hpaired, -⟩ := findings_paired awaitedParallel none
  obtain ⟨_, _, first, _, hcall, -, -, hnext, -⟩ := hpaired 0 [0, 0] _ hfirst rfl
  cases hcall
  exact ⟨hfirst, rfl, rfl, hnext rfl⟩

end Rules
end Fanout
