import Fanout.Proofs.Concrete.Kept
import Fanout.Proofs.Grammar.Invariant
import Fanout.Proofs.Tree.Preorder

/-!
# The first error of a tree

* `FlagsHold` : every flag says whether an error lies in its subtree;
* `flagsHold_ofSource` : so it is in the tree of every text;
* `Cursor.search_eq` : a cursor finds the first node from where it stands that is an error or missing, as
  what it passes over holds none;
* `syntaxError_first` : a tree with an error is reported by the first one, however deep it is.
-/

namespace Fanout.Concrete
open Branching

/-! ## Flags -/

/-- Whether a node is itself an error or missing. -/
def broken (c : Concrete) : Bool := c.label.broken

/-- Every flag of the tree says whether its node or one below it is an error or missing. -/
def FlagsHold (c : Concrete) : Prop :=
  ∀ d ∈ preorder c, d.hasError = true ↔ ∃ e ∈ preorder d, e.broken = true

theorem FlagsHold.of_mem {c d : Concrete} (h : c.FlagsHold) (hd : d ∈ preorder c) : d.FlagsHold :=
  fun e he => h e (preorder_trans hd he)

theorem FlagsHold.iff {c : Concrete} (h : c.FlagsHold) :
    c.hasError = true ↔ ∃ e ∈ preorder c, e.broken = true := h c (self_mem_preorder c)

theorem anyBrokenList_eq (cs : List Concrete) : anyBrokenList cs = cs.any anyBroken := by
  induction cs with
  | nil => rfl
  | cons c cs ih => rw [anyBrokenList, ih, List.any_cons]

theorem flaggedList_eq (cs : List Concrete) : flaggedList cs = cs.all flagged := by
  induction cs with
  | nil => rfl
  | cons c cs ih => rw [flaggedList, ih, List.all_cons]

theorem anyBroken_iff (c : Concrete) :
    c.anyBroken = true ↔ ∃ e ∈ preorder c, e.broken = true := by
  induction c using Branching.induction with
  | step c ih =>
    have hc : c.anyBroken = (c.broken || c.children.any anyBroken) := by
      obtain ⟨label, e, cs⟩ := c
      rw [anyBroken, anyBrokenList_eq]
      rfl
    rw [hc, preorder_eq, Bool.or_eq_true, List.any_eq_true]
    simp only [List.mem_cons, List.mem_flatMap, exists_eq_or_imp]
    refine or_congr Iff.rfl ?_
    constructor
    · rintro ⟨d, hd, hbroken⟩
      obtain ⟨e, he, hbroken⟩ := (ih d hd).1 hbroken
      exact ⟨e, ⟨d, hd, he⟩, hbroken⟩
    · rintro ⟨e, ⟨d, hd, he⟩, hbroken⟩
      exact ⟨d, hd, (ih d hd).2 ⟨e, he, hbroken⟩⟩

theorem flagsHold_iff (c : Concrete) : c.FlagsHold ↔ c.flagged = true := by
  induction c using Branching.induction with
  | step c ih =>
    have hc : c.flagged = ((c.hasError == c.anyBroken) && c.children.all flagged) := by
      obtain ⟨label, e, cs⟩ := c
      rw [flagged, flaggedList_eq, anyBroken]
      rfl
    rw [hc, Bool.and_eq_true, beq_iff_eq, Bool.eq_iff_iff, anyBroken_iff, List.all_eq_true]
    constructor
    · intro h
      refine ⟨h.iff, fun d hd => ?_⟩
      exact (ih d hd).1 (h.of_mem (mem_preorder_of_mem_children hd))
    · rintro ⟨hself, hbelow⟩ d hd
      rw [preorder_eq] at hd
      rcases List.mem_cons.1 hd with rfl | hd
      · exact hself
      · obtain ⟨e, he, hd⟩ := List.mem_flatMap.1 hd
        exact (ih e he).2 (hbelow e he) d hd

instance (c : Concrete) : Decidable c.FlagsHold := decidable_of_iff' _ (flagsHold_iff c)

theorem flagged_ofChildren (label : Label) {children : List Concrete}
    (h : ∀ c ∈ children, c.flagged = true) : (ofChildren label children).flagged = true := by
  have hany : children.any hasError = anyBrokenList children := by
    rw [anyBrokenList_eq, Bool.eq_iff_iff, List.any_eq_true, List.any_eq_true]
    refine exists_congr fun c => and_congr_right fun hc => ?_
    rw [((flagsHold_iff c).2 (h c hc)).iff, anyBroken_iff]
  rw [ofChildren, flagged, flaggedList_eq, hany, beq_self_eq_true, Bool.true_and]
  exact List.all_eq_true.2 h

theorem flagged_withField (c : Concrete) (name : String) : (c.withField name).flagged = c.flagged := by
  obtain ⟨label, e, cs⟩ := c
  rfl

/-- In the tree of a text every flag is right. -/
theorem flagsHold_ofSource (language : Language) (text : String) :
    (ofSource language text).FlagsHold := by
  rw [flagsHold_iff]
  refine Grammar.ofSource_of_forall (Q := fun c => c.flagged = true) ?_ ?_ language text
  · intro label children h
    exact flagged_ofChildren label h
  · intro c name h
    rw [flagged_withField]
    exact h

/-! ## The search -/

namespace Cursor

/-- Where the search does not go down, no error lies at the cursor. -/
theorem not_broken_of_descend? {c : Cursor} (h : c.node.FlagsHold) (hc : c.node.broken = false)
    (hd : c.descend? = none) : ∀ e ∈ preorder c.node, ¬ e.broken = true := by
  by_cases hflag : c.node.hasError = true
  · rw [descend?, if_pos hflag] at hd
    have hleaf : c.node.children = [] := by
      unfold firstChild? at hd
      split at hd
      · assumption
      · cases hd
    intro e he
    rw [preorder_eq] at he
    change e ∈ c.node :: c.node.children.flatMap preorder at he
    rw [hleaf] at he
    rw [List.mem_singleton.1 he, hc]
    decide
  · intro e he hbroken
    exact hflag (h.iff.2 ⟨e, he, hbroken⟩)

/-- From where it stands, a cursor finds the first node that is an error or missing. What the search
passes over holds none. -/
theorem search_eq (c : Cursor) (h : ∀ t ∈ c.node :: c.rest, t.FlagsHold) :
    c.search = ((c.node :: c.rest).flatMap preorder).find? broken := by
  have hnode := h c.node List.mem_cons_self
  have hrest : ∀ t ∈ c.rest, t.FlagsHold := fun t ht => h t (List.mem_cons_of_mem _ ht)
  induction c using search.induct with
  | case1 c hc =>
    have hc' : c.node.broken = true := hc
    rw [search_of_broken hc, List.flatMap_cons, preorder_eq, List.cons_append, List.find?_cons_of_pos hc']
  | case2 c hc d hd ih =>
    -- The search goes down, and comes to the children before it comes to what stands behind them.
    have hc' : ¬ c.node.broken = true := hc
    have hstep := rest_firstChild? (Option.ite_none_right_eq_some.1 hd).2
    have hbelow : ∀ t ∈ d.node :: d.rest, t.FlagsHold := by
      intro t ht
      rw [hstep] at ht
      rcases List.mem_append.1 ht with ht | ht
      · exact hnode.of_mem (mem_preorder_of_mem_children ht)
      · exact hrest t ht
    rw [search_of_not_broken (Bool.eq_false_iff.2 hc), hd, Option.some_or, Option.bind_some,
      ih hbelow (hbelow _ List.mem_cons_self) fun t ht => hbelow t (List.mem_cons_of_mem _ ht), hstep,
      List.flatMap_cons, preorder_eq c.node, List.cons_append, List.find?_cons_of_neg hc',
      List.flatMap_append]
    rfl
  | case3 c hc hd d hd' ih =>
    -- The search goes on: the node has no child, or its flag says that nothing below it is broken.
    have hstep := (rest_onward? c).1 d hd'
    have hnone : ∀ e ∈ preorder c.node, ¬ e.broken = true :=
      not_broken_of_descend? hnode (Bool.eq_false_iff.2 hc) hd
    rw [hstep] at hrest
    calc
      c.search = d.search := by
        rw [search_of_not_broken (Bool.eq_false_iff.2 hc), hd, hd', Option.none_or, Option.bind_some]
      _ = ((d.node :: d.rest).flatMap preorder).find? broken :=
        ih hrest (hrest _ List.mem_cons_self) fun t ht => hrest t (List.mem_cons_of_mem _ ht)
      _ = (preorder c.node ++ (d.node :: d.rest).flatMap preorder).find? broken := by
        rw [List.find?_append, List.find?_eq_none.2 hnone, Option.none_or]
      _ = ((c.node :: c.rest).flatMap preorder).find? broken := by
        rw [← hstep, List.flatMap_cons]
  | case4 c hc hd hd' =>
    have hnone := not_broken_of_descend? hnode (Bool.eq_false_iff.2 hc) hd
    rw [search_of_not_broken (Bool.eq_false_iff.2 hc), hd, hd', Option.none_or, Option.bind_none,
      (rest_onward? c).2 hd', List.flatMap_singleton]
    exact (List.find?_eq_none.2 hnone).symm

end Cursor

theorem firstBroken?_eq {c : Concrete} (h : c.FlagsHold) :
    c.firstBroken? = (preorder c).find? broken := by
  have hsearch := (Cursor.start c).search_eq fun t ht => by
    rw [List.mem_singleton.1 ht]
    exact h
  rw [firstBroken?, hsearch]
  exact congrArg _ (List.flatMap_singleton preorder c)

/-! ## What is reported -/

theorem treeOf_of_find? {c e : Concrete} (h : c.FlagsHold)
    (he : (preorder c).find? broken = some e) :
    treeOf c = .error (.syntaxError e.place) := by
  have hflag : c.hasError = true :=
    h.iff.2 ⟨e, List.mem_of_find?_eq_some he, List.find?_some he⟩
  rw [treeOf, if_pos hflag, firstBroken?_eq h, he]
  rfl

theorem not_broken_of_treeOf {c : Concrete} {t : Node} (h : c.FlagsHold) (ht : treeOf c = .ok t) :
    ∀ e ∈ preorder c, e.broken = false := by
  intro e he
  by_contra hbroken
  rw [Bool.not_eq_false] at hbroken
  rw [treeOf, if_pos (h.iff.2 ⟨e, he, hbroken⟩)] at ht
  cases ht

/-- In a tree whose flags hold, the search from any node with the flag finds the first node below it, in
pre-order, that is an error or missing. So a tree with an error comes to a syntax error at the first one,
on a line that counts from one, and never to a depth; and only a tree without an error comes to a syntax
tree. The tree of a text is such a tree. -/
theorem syntaxError_first :
    (∀ c : Concrete, c.FlagsHold →
      (∀ d ∈ preorder c, d.hasError = true →
        ∃ e, d.firstBroken? = some e ∧ (preorder d).find? broken = some e) ∧
      (∀ e, (preorder c).find? broken = some e →
        treeOf c = .error (.syntaxError e.place) ∧ 1 ≤ e.place.line.toNat) ∧
      ∀ t, treeOf c = .ok t → ∀ e ∈ preorder c, e.broken = false) ∧
    ∀ language text, (ofSource language text).FlagsHold ∧
      parse language text = treeOf (ofSource language text) := by
  refine ⟨fun c hc => ⟨fun d hd hflag => ?_, fun e he => ?_, fun t ht => ?_⟩, fun language text => ?_⟩
  · have hfind : ((preorder d).find? broken).isSome = true :=
      List.find?_isSome.2 ((hc d hd).1 hflag)
    obtain ⟨e, he⟩ := Option.isSome_iff_exists.1 hfind
    exact ⟨e, (firstBroken?_eq (hc.of_mem hd)).trans he, he⟩
  · exact ⟨treeOf_of_find? hc he, Point.location_line_pos _⟩
  · exact not_broken_of_treeOf hc ht
  · exact ⟨flagsHold_ofSource language text, rfl⟩

/-- A bracket that is missing on the second line. -/
def missingBracket : Concrete :=
  .leaf { kind := ")", start := ⟨1, 6⟩, named := false, missing := true }

/-- A program in which the bracket lies in a call below a statement, behind a statement without an error
and before an error on the third line. -/
def brokenProgram : Concrete :=
  let name (text : String) (row column : Nat) : Concrete :=
    .leaf { kind := "identifier", start := ⟨row, column⟩, text }
  let call : Concrete :=
    .ofChildren { kind := "call_expression", start := ⟨1, 4⟩ } [name "f" 1 4, missingBracket]
  .ofChildren { kind := "program", start := ⟨0, 0⟩ }
    [.ofChildren { kind := "expression_statement", start := ⟨0, 0⟩ } [name "a" 0 0],
      .ofChildren { kind := "expression_statement", start := ⟨1, 0⟩ } [name "b" 1 0, call],
      .leaf { kind := "ERROR", start := ⟨2, 0⟩, error := true }]

theorem syntaxError_first_brokenProgram :
    brokenProgram.FlagsHold ∧ treeOf brokenProgram = .error (.syntaxError ⟨2, 6⟩) := by
  have hflags : brokenProgram.FlagsHold := by decide
  have hfirst : (preorder brokenProgram).find? broken = some missingBracket := by
    simp [preorder_eq, Branching.children, Concrete.children, brokenProgram, missingBracket, leaf,
      ofChildren, broken, label, Label.broken]
  exact ⟨hflags, ((syntaxError_first.1 brokenProgram hflags).2.1 missingBracket hfirst).1⟩

end Concrete
end Fanout
