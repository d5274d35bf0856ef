import Fanout.Pattern.Rules
import Fanout.Proofs.Tree.Walk

/-!
# What the rules find

* `Node.CallsMap`, `Node.CallsAllOnMap` : the shapes of call that the rules look for;
* `expected` : the issues of a tree by recursion on the tree, with a flag that says whether an await
  lies above;
* `findIssues_eq_expected` : the walk over the tree finds just these issues, in this order.

The walk decides by the stack of nodes above the one at hand. The flag is what matters of that stack.
-/

namespace Fanout

namespace Node

/-- A call `object.map(..)`. -/
def CallsMap (n : Node) : Prop :=
  ∃ p q object arguments, n = .call p (.member q object "map") arguments

/-- A call `Promise.all(object.map(..), ..)`. -/
def CallsAllOnMap (n : Node) : Prop :=
  ∃ p q r first rest,
    n = .call p (.member q (.identifier r "Promise") "all") (first :: rest) ∧ first.CallsMap

theorem objectOf?_eq_some_iff {n object : Node} {property : String} :
    n.objectOf? property = some object ↔ ∃ p, n = .member p object property := by
  unfold objectOf?
  split
  · rename_i l o p
    by_cases h : p = property
    · subst h; simp
    · simp [h]
  · rename_i hn
    constructor
    · intro h; cases h
    · rintro ⟨place, rfl⟩
      exact absurd rfl (hn place object property)

theorem isNamed_iff {n : Node} {name : String} :
    n.isNamed name = true ↔ ∃ p, n = .identifier p name := by
  cases n <;> simp [isNamed]

theorem isMapCall_iff {n : Node} : n.isMapCall = true ↔ n.CallsMap := by
  unfold isMapCall
  split
  · rename_i place callee arguments
    rw [Option.isSome_iff_exists]
    simp only [objectOf?_eq_some_iff]
    constructor
    · rintro ⟨object, q, rfl⟩
      exact ⟨place, q, object, arguments, rfl⟩
    · rintro ⟨_, q, object, _, h⟩
      cases h
      exact ⟨object, q, rfl⟩
  · rename_i hn
    constructor
    · intro h; cases h
    · rintro ⟨place, q, object, arguments, rfl⟩
      exact absurd rfl (hn _ _ _)

theorem isPromiseAllMap_iff {n : Node} : n.isPromiseAllMap = true ↔ n.CallsAllOnMap := by
  unfold isPromiseAllMap
  split
  · rename_i place callee arguments
    rw [Bool.and_eq_true, Option.any_eq_true, Option.any_eq_true]
    simp only [objectOf?_eq_some_iff, isNamed_iff, isMapCall_iff]
    constructor
    · rintro ⟨⟨_, ⟨q, rfl⟩, r, rfl⟩, first, hfirst, hmap⟩
      obtain ⟨rest, rfl⟩ := List.head?_eq_some_iff.1 hfirst
      exact ⟨place, q, r, first, rest, rfl, hmap⟩
    · rintro ⟨_, q, r, first, rest, h, hmap⟩
      cases h
      exact ⟨⟨_, ⟨q, rfl⟩, r, rfl⟩, first, rfl, hmap⟩
  · rename_i hn
    constructor
    · intro h; cases h
    · rintro ⟨place, q, r, first, rest, rfl, -⟩
      exact absurd rfl (hn _ _ _)

instance (n : Node) : Decidable n.CallsMap := decidable_of_iff _ isMapCall_iff
instance (n : Node) : Decidable n.CallsAllOnMap := decidable_of_iff _ isPromiseAllMap_iff

end Node

namespace Rules
open Node

/-! ## The issues of a tree by recursion -/

/-- The warning at a call, with the texts of the rule. -/
def parallelWarning (place : Location) (file : Option String) : Issue :=
  { promiseAllMap place file with
    severity := .warning, code := "PROMISE_ALL_MAP"
    line := some place.line, column := some place.column, file := file, impact := none }

/-- The critical issue at a call, with the texts of the rule. -/
def repeatedCritical (place : Location) (file : Option String) : Issue :=
  { awaitedMap place file with
    severity := .critical, code := "N_PLUS_ONE_QUERY"
    line := some place.line, column := some place.column, file := file, impact := some 70 }

/-- The issues at a single node, where `awaited` says whether an await lies above it. -/
def issuesAt (file : Option String) (awaited : Bool) (n : Node) : List Issue :=
  (if n.CallsAllOnMap then [parallelWarning n.place file] else []) ++
    (if n.CallsMap ∧ awaited then [repeatedCritical n.place file] else [])

mutual

/-- The issues of a tree in pre-order, a callee before its arguments. -/
def expected (file : Option String) (awaited : Bool) : Node → List Issue
  | n@(.call _ callee arguments) =>
    issuesAt file awaited n ++ expected file awaited callee ++ expectedAll file awaited arguments
  | .member _ object _ => expected file awaited object
  | .await _ argument => expected file true argument
  | .identifier _ _ => []
  | .other _ _ children => expectedAll file awaited children

def expectedAll (file : Option String) (awaited : Bool) : List Node → List Issue
  | [] => []
  | c :: cs => expected file awaited c ++ expectedAll file awaited cs

end

/-! ## The walk finds them -/

section
variable (file : Option String)

theorem issuesAt_of_not_call {n : Node} (h : ∀ place callee arguments, n ≠ .call place callee arguments)
    (awaited : Bool) : issuesAt file awaited n = [] := by
  have hall : ¬ n.CallsAllOnMap := by
    rintro ⟨place, _, _, first, rest, rfl, -⟩
    exact h _ _ _ rfl
  have hmap : ¬ n.CallsMap := by
    rintro ⟨place, _, object, arguments, rfl⟩
    exact h _ _ _ rfl
  simp only [issuesAt, if_neg hall, hmap, false_and, if_false, List.append_nil]

theorem expectedAll_eq_flatMap (awaited : Bool) (cs : List Node) :
    expectedAll file awaited cs = cs.flatMap (expected file awaited) := by
  induction cs with
  | nil => rfl
  | cons c cs ih => rw [expectedAll, ih, List.flatMap_cons]

/-- Below a node the flag is set if it was set above, or if the node is an await. -/
theorem expected_eq (awaited : Bool) (n : Node) :
    expected file awaited n =
      issuesAt file awaited n ++ n.children.flatMap (expected file (n.isAwait || awaited)) := by
  cases n with
  | call place callee arguments =>
    rw [expected, expectedAll_eq_flatMap, List.append_assoc]
    rfl
  | member place object p =>
    rw [expected, issuesAt_of_not_call file (by simp)]
    simp [children, isAwait]
  | await place argument =>
    rw [expected, issuesAt_of_not_call file (by simp)]
    simp [children, isAwait]
  | identifier place name =>
    rw [expected, issuesAt_of_not_call file (by simp)]
    rfl
  | other place kind cs =>
    rw [expected, expectedAll_eq_flatMap, issuesAt_of_not_call file (by simp)]
    rfl

/-- A step of the walk puts the issues of the node at hand in front of those found before. -/
theorem meet_visitor (found : List Issue) (v : Visit) :
    (visitor file).meet found v = (issuesAt file v.underAwait v.node).reverse ++ found := by
  unfold Visitor.meet
  split
  · change visitCall file found v = _
    unfold visitCall issuesAt
    simp only [Bool.and_eq_true, isPromiseAllMap_iff, isMapCall_iff]
    split_ifs <;> rfl
  all_goals
    rename_i hn
    rw [issuesAt_of_not_call file (by rw [hn]; simp)]
    rfl

theorem foldl_visitor (vs : List Visit) (found : List Issue) :
    vs.foldl (visitor file).meet found =
      (vs.flatMap fun v => issuesAt file v.underAwait v.node).reverse ++ found := by
  induction vs generalizing found with
  | nil => rfl
  | cons v vs ih =>
    rw [List.foldl_cons, ih, meet_visitor, List.flatMap_cons, List.reverse_append, List.append_assoc]

theorem findIssues_eq_flatMap (root : Node) :
    findIssues root file = (visitsBelow [] root).flatMap fun v => issuesAt file v.underAwait v.node := by
  rw [findIssues, walk_eq_foldl, foldl_visitor, List.append_nil, List.reverse_reverse]

theorem place_of_mem_findIssues {root : Node} {i : Issue} (h : i ∈ findIssues root file) :
    ∃ place, i = parallelWarning place file ∨ i = repeatedCritical place file := by
  rw [findIssues_eq_flatMap] at h
  obtain ⟨v, -, h⟩ := List.mem_flatMap.1 h
  obtain h | h := List.mem_append.1 h
  · exact ⟨_, .inl (List.mem_singleton.1 (List.mem_ite_nil_right.1 h).2)⟩
  · exact ⟨_, .inr (List.mem_singleton.1 (List.mem_ite_nil_right.1 h).2)⟩

theorem file_of_mem_findIssues {root : Node} {i : Issue} (h : i ∈ findIssues root file) :
    i.file = file := by
  obtain ⟨place, rfl | rfl⟩ := place_of_mem_findIssues file h
  · rfl
  · rfl

/-- The flag of the recursion is what the walk reads off its stack, and it may be set from the start. -/
theorem visitsBelow_issuesAt_or (awaited : Bool) (ancestors : List Node) (n : Node) :
    (visitsBelow ancestors n).flatMap (fun v => issuesAt file (awaited || v.underAwait) v.node) =
      expected file (awaited || ancestors.any isAwait) n := by
  induction n using Branching.induction generalizing ancestors with
  | step n ih =>
    rw [visitsBelow_eq, List.flatMap_cons, List.flatMap_assoc, expected_eq]
    refine congrArg _ (List.flatMap_congr fun c hc => ?_)
    rw [ih c hc (n :: ancestors), List.any_cons, Bool.or_left_comm]

theorem visitsBelow_issuesAt (ancestors : List Node) (n : Node) :
    (visitsBelow ancestors n).flatMap (fun v => issuesAt file v.underAwait v.node) =
      expected file (ancestors.any isAwait) n := by
  have h := visitsBelow_issuesAt_or file false ancestors n
  simp only [Bool.false_or] at h
  exact h

end

theorem findIssues_eq_expected (root : Node) (file : Option String) :
    findIssues root file = expected file false root := by
  rw [findIssues, walk_eq_foldl, foldl_visitor, List.append_nil, List.reverse_reverse,
    visitsBelow_issuesAt]
  rfl

/-- In `await Promise.all(ids.map(load))` the warning comes first, then the call of `map` below it. -/
example :
    findIssues
        (.await ⟨1, 0⟩ (.call ⟨1, 6⟩ (.member ⟨1, 6⟩ (.identifier ⟨1, 6⟩ "Promise") "all")
          [.call ⟨1, 18⟩ (.member ⟨1, 18⟩ (.identifier ⟨1, 18⟩ "ids") "map")
            [.identifier ⟨1, 26⟩ "load"]])) none =
      [promiseAllMap ⟨1, 6⟩ none, awaitedMap ⟨1, 18⟩ none] := by
  decide

end Rules
end Fanout
