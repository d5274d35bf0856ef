import Mathlib.Algebra.Ring.Nat
import Fanout.Proofs.Pattern.Findings
import Fanout.Proofs.Tree.Origin
import Fanout.Proofs.Tree.Preorder

/-!
# Findings in the order of the source

* `Point.location_le` : the 32-bit places of a report keep the order of the source, as long as rows are not cut
  off;
* `Concrete.WellPlaced` : a tree whose nodes start in the order of the source;
* `Concrete.WellPlaced.start_le` : in such a tree a node does not start behind one that comes after it;
* `Concrete.WellPlaced.visits_pairwise` : lowering keeps that order;
* `findIssues_inOrder` : so the issues of a tree are reported in the order of the source.

Calls in a chain start where their leftmost object does, so two issues may be reported at one place.
-/

namespace Fanout
open Branching

/-! ## Places in order -/

instance : LE Point where
  le p q := p.row < q.row ∨ p.row = q.row ∧ p.column ≤ q.column

instance : LE Location where
  le p q := p.line < q.line ∨ p.line = q.line ∧ p.column ≤ q.column

theorem Point.le_def {p q : Point} : p ≤ q ↔ p.row < q.row ∨ p.row = q.row ∧ p.column ≤ q.column := Iff.rfl

theorem Location.le_def {p q : Location} :
    p ≤ q ↔ p.line < q.line ∨ p.line = q.line ∧ p.column ≤ q.column := Iff.rfl

instance (p q : Point) : Decidable (p ≤ q) := decidable_of_iff _ Point.le_def.symm
instance (p q : Location) : Decidable (p ≤ q) := decidable_of_iff _ Location.le_def.symm

theorem Point.le_refl (p : Point) : p ≤ p := .inr ⟨rfl, Nat.le_refl _⟩

theorem Point.le_trans {p q r : Point} (h : p ≤ q) (h' : q ≤ r) : p ≤ r := by
  rw [le_def] at *
  omega

theorem Location.le_refl (p : Location) : p ≤ p := .inr ⟨rfl, UInt32.le_refl _⟩

/-- A column that is cut off stays behind the columns before it. A row that is cut off would not: the columns
of its places need not be in order. -/
theorem Point.location_le {p q : Point} (h : p ≤ q) (hq : q.row < 2 ^ 32 - 1) : p.location ≤ q.location := by
  have hp := p.location_line_toNat
  have hq' := q.location_line_toNat
  have hc := p.location_column_toNat
  have hc' := q.location_column_toNat
  rw [maxWord] at *
  rw [le_def] at h
  rw [Location.le_def, UInt32.lt_iff_toNat_lt, UInt32.le_iff_toNat_le, ← UInt32.toNat_inj]
  omega

/-! ## Trees in the order of the source -/

namespace Concrete

def start (c : Concrete) : Point := c.label.start

theorem child?_of_fieldIndex {c d : Concrete} {name : String} {i : Nat} (hi : c.fieldIndex? name = some i)
    (hd : c.children[i]? = some d) : child? name c.children = some d := by
  rw [child?_eq, hi, Option.bind_some, hd]

/-- No node of the one tree starts behind a node of the other. -/
def StartsBefore (c d : Concrete) : Prop := ∀ x ∈ preorder c, ∀ y ∈ preorder d, x.start ≤ y.start

theorem StartsBefore.trans {c d e : Concrete} (h : c.StartsBefore d) (h' : d.StartsBefore e) :
    c.StartsBefore e := fun x hx y hy =>
  Point.le_trans (h x hx d (self_mem_preorder d)) (h' d (self_mem_preorder d) y hy)

instance : Trans StartsBefore StartsBefore StartsBefore := ⟨StartsBefore.trans⟩

/-- The nodes of a tree start in the order of the source. -/
structure WellPlaced (c : Concrete) : Prop where
  /-- No node starts before its parent. -/
  parent : ∀ d ∈ preorder c, ∀ e ∈ d.children, d.start ≤ e.start
  /-- No node of a subtree starts behind a node of the next sibling's subtree. -/
  siblings : ∀ d ∈ preorder c, d.children.IsChain StartsBefore
  /-- No node of a callee starts behind a node of the arguments. -/
  callee : ∀ d ∈ preorder c, d.role = .call →
    ∀ e f, child? "function" d.children = some e → child? "arguments" d.children = some f → e.StartsBefore f

namespace WellPlaced
variable {c d e : Concrete} (h : c.WellPlaced)
include h

/-- No node starts before a node that it lies below. -/
theorem start_le_of_mem (hd : d ∈ preorder c) (he : e ∈ preorder d) : d.start ≤ e.start := by
  induction d using Branching.induction with
  | step d ih =>
    rw [preorder_eq, List.mem_cons, List.mem_flatMap] at he
    obtain rfl | ⟨b, hb, he⟩ := he
    · exact Point.le_refl _
    · have hbc : b ∈ preorder c := preorder_trans hd (mem_preorder_of_mem_children hb)
      exact Point.le_trans (h.parent d hd b hb) (ih b hb hbc he)

/-- What holds of neighbours holds of any two siblings. -/
theorem startsBefore_of_lt (hd : d ∈ preorder c) {i j : Nat} (hij : i < j) {a b : Concrete}
    (ha : d.children[i]? = some a) (hb : d.children[j]? = some b) : a.StartsBefore b := by
  obtain ⟨hi, rfl⟩ := List.getElem?_eq_some_iff.1 ha
  obtain ⟨hj, rfl⟩ := List.getElem?_eq_some_iff.1 hb
  have hpairwise := List.isChain_iff_pairwise.1 (h.siblings d hd)
  exact List.pairwise_iff_getElem.1 hpairwise i j hi hj hij

/-- A node does not start behind one that comes after it. -/
theorem start_le {p q : Address} (hpq : p < q) (hd : subtree? c p = some d) (he : subtree? c q = some e) :
    d.start ≤ e.start := by
  obtain ⟨s, rfl⟩ | ⟨s, i, j, u, v, hij, rfl, rfl⟩ := isPrefix_or_leftOf_of_lt hpq
  · rw [subtree?_append, hd, Option.bind_some] at he
    exact h.start_le_of_mem (mem_preorder.2 ⟨p, hd⟩) (mem_preorder.2 ⟨s, he⟩)
  · rw [subtree?_append] at hd he
    obtain ⟨b, hb, hd⟩ := Option.bind_eq_some_iff.1 hd
    rw [hb, Option.bind_some, subtree?_cons] at he
    rw [subtree?_cons] at hd
    obtain ⟨x, hx, hd⟩ := Option.bind_eq_some_iff.1 hd
    obtain ⟨y, hy, he⟩ := Option.bind_eq_some_iff.1 he
    exact h.startsBefore_of_lt (mem_preorder.2 ⟨s, hb⟩) hij hx hy d (mem_preorder.2 ⟨u, hd⟩) e
      (mem_preorder.2 ⟨v, he⟩)

/-- The nodes of the lowered tree are met in the order in which they start. -/
theorem start_origin_le :
    (addresses c.lowerAll).Pairwise fun q q' => ∀ d e, subtree? c (c.origin q) = some d →
      subtree? c (c.origin q') = some e → d.start ≤ e.start := by
  have horigins := c.origins_pairwise
  rw [origins, List.pairwise_map] at horigins
  refine horigins.imp ?_
  rintro q q' (hlt | ⟨r, a, u, v, ha, hswaps, hq, hq'⟩) d e hd he
  · exact h.start_le hlt hd he
  · obtain ⟨hrole, i, j, u, v, hi, hj, -, rfl, rfl⟩ := hswaps
    rw [hq, subtree?_append, ha, Option.bind_some, subtree?_cons] at hd
    rw [hq', subtree?_append, ha, Option.bind_some, subtree?_cons] at he
    obtain ⟨x, hx, hd⟩ := Option.bind_eq_some_iff.1 hd
    obtain ⟨y, hy, he⟩ := Option.bind_eq_some_iff.1 he
    exact h.callee a (mem_preorder.2 ⟨r, ha⟩) hrole x y (child?_of_fieldIndex hi hx)
      (child?_of_fieldIndex hj hy) d (mem_preorder.2 ⟨u, hd⟩) e (mem_preorder.2 ⟨v, he⟩)

/-- So their places are in order as well. -/
theorem visits_pairwise (rows : ∀ d ∈ preorder c, d.start.row < 2 ^ 32 - 1) :
    c.lowerAll.visits.Pairwise fun v w => v.node.place ≤ w.node.place := by
  rw [Node.visits_eq, Node.visitsBelow, List.pairwise_map]
  refine h.start_origin_le.imp_of_mem fun {q q'} hq hq' hle => ?_
  obtain ⟨n, hn⟩ := exists_subtree hq
  obtain ⟨n', hn'⟩ := exists_subtree hq'
  obtain ⟨d, hd, rfl, -⟩ := origin_spec hn
  obtain ⟨e, he, rfl, -⟩ := origin_spec hn'
  rw [(Node.visitAt_spec hn []).1, (Node.visitAt_spec hn' []).1, place_lowerAll, place_lowerAll]
  exact Point.location_le (hle d e hd he) (rows e (mem_preorder.2 ⟨_, he⟩))

end WellPlaced

end Concrete

/-! ## Issues -/

namespace Rules

theorem place_of_mem_issuesAt {file : Option String} {awaited : Bool} {n : Node} {i : Issue}
    (h : i ∈ issuesAt file awaited n) : i.line = some n.place.line ∧ i.column = some n.place.column := by
  obtain h | h := List.mem_append.1 h
  all_goals
    obtain ⟨-, h⟩ := List.mem_ite_nil_right.1 h
    rw [List.mem_singleton.1 h]
    exact ⟨rfl, rfl⟩

end Rules

/-- Both issues have a place, and that of the first is not behind that of the second. -/
def Issue.NotBehind (i j : Issue) : Prop :=
  ∃ p q : Location, i.line = some p.line ∧ i.column = some p.column ∧ j.line = some q.line ∧
    j.column = some q.column ∧ p ≤ q

/-- Where the nodes of a tree start in the order of the source, its issues are reported in that order. -/
theorem findIssues_inOrder {c : Concrete} {t : Node} (file : Option String) (placed : c.WellPlaced)
    (rows : ∀ d ∈ preorder c, d.start.row < 2 ^ 32 - 1) (h : c.lower = .ok t) :
    (findIssues t file).Pairwise Issue.NotBehind := by
  obtain rfl := Concrete.eq_lowerAll_of_lower h
  have at_places {v w : Node.Visit} (hle : v.node.place ≤ w.node.place) :
      ∀ i ∈ Rules.issuesAt file v.underAwait v.node, ∀ j ∈ Rules.issuesAt file w.underAwait w.node,
        i.NotBehind j := by
    intro i hi j hj
    obtain ⟨hline, hcolumn⟩ := Rules.place_of_mem_issuesAt hi
    obtain ⟨hline', hcolumn'⟩ := Rules.place_of_mem_issuesAt hj
    exact ⟨v.node.place, w.node.place, hline, hcolumn, hline', hcolumn', hle⟩
  rw [Rules.findIssues_eq_flatMap, ← Node.visits_eq, List.pairwise_flatMap]
  constructor
  · intro v _
    exact List.pairwise_of_forall_mem_list (at_places (Location.le_refl _))
  · exact (placed.visits_pairwise rows).imp at_places

/-- The program `await xs.map(f).map(g)` so far to the right that columns are cut off, and `await ys.map(h)` in
the next row. -/
def chainedMaps : Concrete :=
  let name (kind text : String) (start : Point) (field : Option String := none) : Concrete :=
    .leaf { kind, start, text, field }
  let call (object : Concrete) (property argument : Point) (text : String) : Concrete :=
    .ofChildren { kind := "call_expression", start := object.start }
      [.ofChildren { kind := "member_expression", start := object.start, field := some "function" }
          [object.withField "object", name "property_identifier" "map" property (some "property")],
        .ofChildren { kind := "arguments", start := argument, field := some "arguments" }
          [name "identifier" text argument]]
  let awaited (start : Point) (children : List Concrete) : Concrete :=
    .ofChildren { kind := "await_expression", start } children
  .ofChildren { kind := "program", start := ⟨0, 4294967290⟩ }
    [awaited ⟨0, 4294967290⟩
        [.leaf { kind := "comment", start := ⟨0, 4294967294⟩, extra := true },
          call (call (name "identifier" "xs" ⟨0, 4294967300⟩) ⟨0, 4294967303⟩ ⟨0, 4294967307⟩ "f")
            ⟨0, 4294967310⟩ ⟨0, 4294967314⟩ "g"],
      awaited ⟨1, 0⟩ [call (name "identifier" "ys" ⟨1, 6⟩) ⟨1, 9⟩ ⟨1, 13⟩ "h"]]

theorem wellPlaced_chainedMaps :
    chainedMaps.WellPlaced ∧ ∀ d ∈ preorder chainedMaps, d.start.row < 2 ^ 32 - 1 := by
  refine ⟨⟨?_, ?_, ?_⟩, ?_⟩
  all_goals
    simp [chainedMaps, Concrete.leaf, Concrete.ofChildren, Concrete.withField, Concrete.start,
      Concrete.label, Concrete.children, Concrete.child?, Concrete.fills, Concrete.StartsBefore,
      Branching.children, preorder_eq (Concrete.node _ _ _), Point.le_def]

/-- The calls in the chain are reported at one place, in the largest column. -/
theorem findIssues_inOrder_chainedMaps :
    chainedMaps.WellPlaced ∧
      ∃ t, chainedMaps.lower = .ok t ∧ (findIssues t none).Pairwise Issue.NotBehind ∧
        (findIssues t none).map (fun i => (i.line, i.column)) =
          [(some 1, some 4294967295), (some 1, some 4294967295), (some 2, some 6)] := by
  obtain ⟨placed, rows⟩ := wellPlaced_chainedMaps
  exact ⟨placed, _, rfl, findIssues_inOrder none placed rows rfl, rfl⟩

end Fanout
