import Mathlib.Data.List.Flatten
import Mathlib.Data.List.Perm.Basic
import Fanout.Proofs.Pattern.Findings
import Fanout.Proofs.Tree.Preorder
import Fanout.Proofs.Tree.Replace

/-!
# Wrapping a subtree

* `Node.Wrappable` : the node at an address is the root, or its parent is an await or a node that no rule
  looks at;
* `expected_replaceAt` : then what is found around the subtree does not depend on it, and what is found in
  it depends on the rest by one flag;
* `issuesAt_true` : at a single node the flag adds the issue of an awaited `map`, and changes nothing else;
* `findIssues_wrapped` : an await around the subtree adds the issues of the calls of `map` in it that had
  no await above them, and nodes of other kinds around it change nothing.
-/

namespace Fanout.Node
open Branching

/-- Whether a node is of a kind that no rule looks at. -/
def isOther : Node → Bool
  | other _ _ _ => true
  | _ => false

/-- The node at an address is the root, or its parent is an await or of another kind. -/
def Wrappable (root : Node) (p : Address) : Prop :=
  ∀ q i parent, p = q ++ [i] → subtree? root q = some parent →
    parent.isAwait = true ∨ parent.isOther = true

/-! ## What the rules see -/

section
variable {new n : Node} {p : Address}

theorem Wrappable.child {c : Node} {i : Nat} (h : n.Wrappable (i :: p)) (hc : n.children[i]? = some c) :
    c.Wrappable p := by
  intro q j parent hp hparent
  refine h (i :: q) j parent (by rw [hp]; rfl) ?_
  exact (subtree?_cons_of_child hc q).trans hparent

/-- A node that a rule looks at is not the parent. -/
theorem Wrappable.ne_nil {i : Nat} (h : n.Wrappable (i :: p)) (hawait : n.isAwait = false)
    (hother : n.isOther = false) : p ≠ [] := by
  rintro rfl
  rcases h [] i n rfl rfl with h | h
  · rw [hawait] at h
    cases h
  · rw [hother] at h
    cases h

theorem isSome_objectOf?_replaceAt (hp : p ≠ []) (property : String) :
    ((replaceAt new p n).objectOf? property).isSome = (n.objectOf? property).isSome := by
  cases p with
  | nil => exact absurd rfl hp
  | cons i p => rw [replaceAt, objectOf?_modifyChild, Option.isSome_map]

theorem any_objectOf?_replaceAt (h : n.Wrappable p) (hp : p ≠ []) (property name : String) :
    ((replaceAt new p n).objectOf? property).any (isNamed name) =
      (n.objectOf? property).any (isNamed name) := by
  cases p with
  | nil => exact absurd rfl hp
  | cons i p =>
    rw [replaceAt, objectOf?_modifyChild]
    cases hobject : n.objectOf? property with
    | none => rfl
    | some object =>
      obtain ⟨l, rfl⟩ := objectOf?_eq_some_iff.1 hobject
      show (if i = 0 then replaceAt new p object else object).isNamed name = object.isNamed name
      split_ifs
      · cases p with
        | nil => exact absurd rfl (h.ne_nil rfl rfl)
        | cons j p => exact isNamed_modifyChild _ object j name
      · rfl

theorem isMapCall_replaceAt (h : n.Wrappable p) (hp : p ≠ []) :
    (replaceAt new p n).isMapCall = n.isMapCall := by
  cases p with
  | nil => exact absurd rfl hp
  | cons i p =>
    cases n with
    | call l callee arguments =>
      cases i with
      | zero => exact isSome_objectOf?_replaceAt (h.ne_nil rfl rfl) "map"
      | succ i => rfl
    | member l object name => cases i <;> rfl
    | await l argument => cases i <;> rfl
    | identifier l name => rfl
    | other l kind children => rfl

theorem isPromiseAllMap_replaceAt (h : n.Wrappable p) (hp : p ≠ []) :
    (replaceAt new p n).isPromiseAllMap = n.isPromiseAllMap := by
  cases p with
  | nil => exact absurd rfl hp
  | cons i p =>
    cases n with
    | call l callee arguments =>
      have hne : p ≠ [] := h.ne_nil rfl rfl
      cases i with
      | zero =>
        have hcallee : callee.Wrappable p := h.child rfl
        show (((replaceAt new p callee).objectOf? "all").any (isNamed "Promise") &&
          arguments.head?.any isMapCall) = _
        rw [any_objectOf?_replaceAt hcallee hne]
        rfl
      | succ i =>
        cases i with
        | succ i => cases arguments <;> rfl
        | zero =>
          cases arguments with
          | nil => rfl
          | cons first rest =>
            have hfirst : first.Wrappable p := h.child rfl
            show ((callee.objectOf? "all").any (isNamed "Promise") &&
              (replaceAt new p first).isMapCall) = _
            rw [isMapCall_replaceAt hfirst hne]
            rfl
    | member l object name => cases i <;> rfl
    | await l argument => cases i <;> rfl
    | identifier l name => rfl
    | other l kind children => rfl

end
end Fanout.Node

namespace Fanout.Rules
open Node Branching

section
variable (file : Option String)

theorem issuesAt_replaceAt {new n : Node} {p : Address} (h : n.Wrappable p) (hp : p ≠ [])
    (awaited : Bool) : issuesAt file awaited (replaceAt new p n) = issuesAt file awaited n := by
  have hplace : (replaceAt new p n).place = n.place := by
    cases p with
    | nil => exact absurd rfl hp
    | cons i p => exact place_modifyChild _ n i
  simp only [issuesAt, ← isPromiseAllMap_iff, ← isMapCall_iff, isPromiseAllMap_replaceAt h hp,
    isMapCall_replaceAt h hp, hplace]

/-- Around a subtree that may be wrapped the same is found whatever stands there. In it the rest counts by
the flag alone. -/
theorem expected_replaceAt {n s : Node} {p : Address} (hs : subtree? n p = some s) (h : n.Wrappable p)
    (ancestors : List Node) :
    ∃ before behind,
      expected file (ancestors.any isAwait) n =
        before ++ expected file (visitAt ancestors n p).underAwait s ++ behind ∧
      ∀ new, expected file (ancestors.any isAwait) (replaceAt new p n) =
        before ++ expected file (visitAt ancestors n p).underAwait new ++ behind := by
  induction p generalizing n ancestors with
  | nil =>
    cases hs
    exact ⟨[], [], (List.append_nil _).symm, fun new => (List.append_nil _).symm⟩
  | cons i p ih =>
    obtain ⟨c, hc, hs⟩ := Option.bind_eq_some_iff.1 hs
    obtain ⟨before, behind, hold, hnew⟩ := ih hs (h.child hc) (n :: ancestors)
    obtain ⟨left, right, hleft, hright⟩ :=
      flatMap_children_replaceAt (expected file (n.isAwait || ancestors.any isAwait)) hc p
    rw [List.any_cons] at hold hnew
    refine ⟨issuesAt file (ancestors.any isAwait) n ++ left ++ before, behind ++ right, ?_, fun new => ?_⟩
    · rw [expected_eq, hleft, hold, visitAt_cons hc]
      simp only [List.append_assoc]
    · have hawait : (replaceAt new (i :: p) n).isAwait = n.isAwait := isAwait_modifyChild _ n i
      rw [expected_eq, issuesAt_replaceAt file h (List.cons_ne_nil i p), hawait, hright new, hnew new,
        visitAt_cons hc]
      simp only [List.append_assoc]

/-! ## The flag -/

/-- The flag adds the issue of an awaited `map`. -/
theorem issuesAt_true (awaited : Bool) (n : Node) :
    issuesAt file true n =
      issuesAt file awaited n ++
        if n.CallsMap ∧ awaited = false then [repeatedCritical n.place file] else [] := by
  unfold issuesAt
  by_cases hmap : n.CallsMap
  · cases awaited <;> simp [hmap]
  · simp [hmap]

theorem filter_issuesAt_true (awaited : Bool) (n : Node) :
    (issuesAt file true n).filter (·.code == "PROMISE_ALL_MAP") =
      (issuesAt file awaited n).filter (·.code == "PROMISE_ALL_MAP") := by
  rw [issuesAt_true file awaited, List.filter_append]
  split
  · exact List.append_nil _
  · exact List.append_nil _

theorem flatMap_ite_singleton {α β : Type} (l : List α) (c : α → Prop) [DecidablePred c] (g : α → β) :
    (l.flatMap fun a => if c a then [g a] else []) = (l.filter c).map g := by
  induction l with
  | nil => rfl
  | cons a l ih =>
    rw [List.flatMap_cons, ih]
    by_cases ha : c a
    · simp [ha]
    · simp [ha]

theorem visitsBelow_issuesAt_true (ancestors : List Node) (n : Node) :
    (visitsBelow ancestors n).flatMap (fun v => issuesAt file true v.node) = expected file true n := by
  have h := visitsBelow_issuesAt_or file true ancestors n
  simp only [Bool.true_or] at h
  exact h

/-- Under an await the calls of `map` that had none above them are found besides. -/
theorem expected_true_perm (ancestors : List Node) (n : Node) :
    (expected file true n).Perm
      (expected file (ancestors.any isAwait) n ++
        ((visitsBelow ancestors n).filter fun v => v.node.CallsMap ∧ v.underAwait = false).map
          fun v => repeatedCritical v.node.place file) := by
  rw [← visitsBelow_issuesAt_true file ancestors, ← visitsBelow_issuesAt, ← flatMap_ite_singleton]
  refine List.Perm.trans (.of_eq ?_) (List.flatMap_append_perm _ _ _).symm
  exact List.flatMap_congr fun v _ => issuesAt_true file v.underAwait v.node

theorem expected_sublist_true (ancestors : List Node) (n : Node) :
    (expected file (ancestors.any isAwait) n).Sublist (expected file true n) := by
  rw [← visitsBelow_issuesAt_true file ancestors, ← visitsBelow_issuesAt]
  refine List.Sublist.flatMap_right _ fun v _ => ?_
  rw [issuesAt_true file v.underAwait]
  exact List.sublist_append_left _ _

theorem filter_expected_true (ancestors : List Node) (n : Node) :
    (expected file true n).filter (·.code == "PROMISE_ALL_MAP") =
      (expected file (ancestors.any isAwait) n).filter (·.code == "PROMISE_ALL_MAP") := by
  rw [← visitsBelow_issuesAt_true file ancestors, ← visitsBelow_issuesAt, List.filter_flatMap,
    List.filter_flatMap]
  exact List.flatMap_congr fun v _ => filter_issuesAt_true file v.underAwait v.node

end

/-! ## Wrapping -/

/-- A node inside of nodes of other kinds, each with a place and a kind, the outermost first. -/
def shelled (shells : List (Location × String)) (n : Node) : Node :=
  shells.foldr (fun shell n => .other shell.1 shell.2 [n]) n

theorem expected_shelled (file : Option String) (awaited : Bool) (shells : List (Location × String))
    (n : Node) : expected file awaited (shelled shells n) = expected file awaited n := by
  induction shells with
  | nil => rfl
  | cons shell shells ih =>
    show expected file awaited (.other shell.1 shell.2 [shelled shells n]) = _
    rw [expected, expectedAll, expectedAll, List.append_nil, ih]

/-- The calls of `map` in the subtree at an address that have no await above them in the whole tree. -/
def unawaitedMaps (root : Node) (p : Address) : List Visit :=
  (((addresses root).filter fun q => p <+: q).map (visitAt [] root)).filter fun v =>
    v.node.CallsMap ∧ v.underAwait = false

theorem unawaitedMaps_eq {root s : Node} {p : Address} (hs : subtree? root p = some s) :
    unawaitedMaps root p =
      (visitsBelow (visitAt [] root p).ancestors s).filter fun v =>
        v.node.CallsMap ∧ v.underAwait = false := by
  rw [unawaitedMaps, filter_isPrefix_addresses hs, List.map_map, visitsBelow]
  refine congrArg _ (List.map_congr_left fun q _ => ?_)
  exact visitAt_append hs [] q

/-- Take a subtree that is the root or whose parent is an await or of another kind. With an await around
it the issues that were found before are found in their order, the same warnings of `Promise.all` among
them, and besides them one critical issue for each call of `map` in the subtree that had no await above
it. With nodes of other kinds around it just the same is found. -/
theorem findIssues_wrapped {root s : Node} {p : Address} (hs : subtree? root p = some s)
    (hp : root.Wrappable p) (file : Option String) :
    (∀ place,
      (findIssues root file).Sublist (findIssues (replaceAt (.await place s) p root) file) ∧
      (findIssues (replaceAt (.await place s) p root) file).filter (·.code == "PROMISE_ALL_MAP") =
        (findIssues root file).filter (·.code == "PROMISE_ALL_MAP") ∧
      (findIssues (replaceAt (.await place s) p root) file).Perm
        (findIssues root file ++
          (unawaitedMaps root p).map fun v => repeatedCritical v.node.place file)) ∧
    ∀ shells, findIssues (replaceAt (shelled shells s) p root) file = findIssues root file := by
  obtain ⟨before, behind, hold, hnew⟩ := expected_replaceAt file hs hp []
  rw [List.any_nil] at hold hnew
  have hawait (place : Location) : findIssues (replaceAt (.await place s) p root) file =
      before ++ expected file true s ++ behind := by
    rw [findIssues_eq_expected, hnew, expected]
  rw [findIssues_eq_expected root, hold]
  refine ⟨fun place => ⟨?_, ?_, ?_⟩, fun shells => ?_⟩
  · rw [hawait]
    exact ((List.Sublist.refl before).append (expected_sublist_true file _ s)).append (.refl behind)
  · rw [hawait]
    simp only [List.filter_append]
    rw [filter_expected_true file (visitAt [] root p).ancestors s]
    rfl
  · rw [hawait, unawaitedMaps_eq hs]
    have hperm := expected_true_perm file (visitAt [] root p).ancestors s
    refine ((hperm.append_left before).append_right behind).trans ?_
    simp only [List.append_assoc]
    exact (List.perm_append_comm.append_left _).append_left before
  · rw [findIssues_eq_expected, hnew, expected_shelled]

/-- The call `Promise.all(ids.map(load))`. -/
def parallelCall : Node :=
  .call ⟨1, 0⟩ (.member ⟨1, 0⟩ (.identifier ⟨1, 0⟩ "Promise") "all")
    [.call ⟨1, 12⟩ (.member ⟨1, 12⟩ (.identifier ⟨1, 12⟩ "ids") "map") [.identifier ⟨1, 20⟩ "load"]]

/-- The call as a statement. -/
def parallelStatement : Node := .other ⟨1, 0⟩ "expression_statement" [parallelCall]

theorem wrappable_parallelStatement : parallelStatement.Wrappable [0] := by
  intro q i parent hq hparent
  obtain ⟨rfl, -⟩ := List.append_inj' (show [] ++ [0] = q ++ [i] from hq) rfl
  cases hparent
  exact .inr rfl

/-- An await before the call finds its `map`, and parentheses around the call find nothing more. -/
theorem findIssues_wrapped_parallelStatement :
    subtree? parallelStatement [0] = some parallelCall ∧ parallelStatement.Wrappable [0] ∧
      (∀ place, (findIssues (replaceAt (.await place parallelCall) [0] parallelStatement) none).Perm
        [promiseAllMap ⟨1, 0⟩ none, awaitedMap ⟨1, 12⟩ none]) ∧
      ∀ shells, findIssues (replaceAt (shelled shells parallelCall) [0] parallelStatement) none =
        [promiseAllMap ⟨1, 0⟩ none] := by
  have hold : findIssues parallelStatement none = [promiseAllMap ⟨1, 0⟩ none] := by decide
  have hmaps : (unawaitedMaps parallelStatement [0]).map (fun v => repeatedCritical v.node.place none) =
      [awaitedMap ⟨1, 12⟩ none] := by
    rw [unawaitedMaps_eq (s := parallelCall) rfl]
    simp only [parallelCall, visitsBelow_eq, Node.children, List.flatMap_cons, List.flatMap_nil,
      List.append_nil, List.cons_append, List.nil_append]
    rfl
  obtain ⟨hawait, hshelled⟩ :=
    findIssues_wrapped (s := parallelCall) rfl wrappable_parallelStatement none
  refine ⟨rfl, wrappable_parallelStatement, fun place => ?_, fun shells => ?_⟩
  · have hperm := (hawait place).2.2
    rw [hold, hmaps] at hperm
    exact hperm
  · rw [hshelled, hold]

end Fanout.Rules
