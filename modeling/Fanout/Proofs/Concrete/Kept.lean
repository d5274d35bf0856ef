import Fanout.Proofs.Tree.Address
import Fanout.Tree.Lowering

/-!
# The nodes of a concrete tree that are kept

* `Role` : what a node is kept as;
* `Drops` : the children that a node leaves out together with all that lies below them;
* `Keeps` : the addresses of the nodes that are kept. The list of the arguments of a call is not kept,
  but what it holds is;
* `Keeps.not_extra` : no extra is kept, wherever it stands;
* `kin` : the kept nodes that come right below a kept node when all else is taken away;
* `keeps_iff` : what is kept is reached from kin to kin;
* `kin_pairwise` : kin are listed from left to right, but for a callee that its arguments stand left of.
-/

namespace Fanout.Concrete
open Branching

instance : Branching Concrete where
  children := Concrete.children
  wellFounded := Subrelation.wf sizeOf_lt_of_mem_children (measure sizeOf).wf

/-! ## What a node is kept as -/

/-- The index of the first child that fills a field. -/
def fieldIndex? (name : String) (c : Concrete) : Option Nat :=
  c.children.findIdx? (fills name)

/-- The index of the first child that counts. -/
def operandIndex? (c : Concrete) : Option Nat := c.children.findIdx? counts

inductive Role where
  /-- A call with a callee. -/
  | call
  /-- A member access with an object and a property. -/
  | member
  /-- An await with an operand. -/
  | await
  | name
  | other
  deriving DecidableEq

def role (c : Concrete) : Role :=
  if c.label.kind = "call_expression" ∧ (c.fieldIndex? "function").isSome then .call
  else if c.label.kind = "member_expression" ∧
      (c.fieldIndex? "object").isSome ∧ (c.fieldIndex? "property").isSome then .member
  else if c.label.kind = "await_expression" ∧ c.operandIndex?.isSome then .await
  else if c.label.kind = "identifier" then .name
  else .other

/-! ## What is kept -/

/-- Child `i`, the node `d`, is left out together with all that lies below it. A call leaves out all
but its callee and its arguments, a member access all but its object, an await all but its first
operand, a name all that lies below it. Other nodes leave out comments, other extras and tokens without
a name. -/
def Drops (c : Concrete) (i : Nat) (d : Concrete) : Prop :=
  match c.role with
  | .call => c.fieldIndex? "function" ≠ some i ∧ c.fieldIndex? "arguments" ≠ some i
  | .member => c.fieldIndex? "object" ≠ some i
  | .await => c.operandIndex? ≠ some i
  | .name => True
  | .other => d.counts = false

/-- Child `i`, the node `d`, is the list of the arguments of a call. -/
def ListsArguments (c : Concrete) (i : Nat) (d : Concrete) : Prop :=
  c.role = .call ∧ c.fieldIndex? "arguments" = some i ∧ d.label.kind = "arguments"

/-- The node at an address is kept: no step on the way is to a child that is left out, and the last step
is not to a list of arguments. -/
def Keeps : Concrete → Address → Prop
  | _, [] => True
  | c, i :: p =>
    ∃ d, c.children[i]? = some d ∧ ¬ c.Drops i d ∧ (p = [] → ¬ c.ListsArguments i d) ∧ d.Keeps p

instance (c : Concrete) (i : Nat) (d : Concrete) : Decidable (c.Drops i d) :=
  match h : c.role with
  | .call => decidable_of_iff (_ ≠ _ ∧ _ ≠ _) (by rw [Drops, h])
  | .member => decidable_of_iff (_ ≠ _) (by rw [Drops, h])
  | .await => decidable_of_iff (_ ≠ _) (by rw [Drops, h])
  | .name => isTrue (by rw [Drops, h]; trivial)
  | .other => decidable_of_iff (_ = _) (by rw [Drops, h])

instance (c : Concrete) (i : Nat) (d : Concrete) : Decidable (c.ListsArguments i d) :=
  inferInstanceAs (Decidable (_ ∧ _ ∧ _))

instance decidableKeeps : (c : Concrete) → (p : Address) → Decidable (c.Keeps p)
  | _, [] => isTrue trivial
  | c, i :: p =>
    match h : c.children[i]? with
    | none => isFalse (by rintro ⟨d, hd, -⟩; rw [h] at hd; cases hd)
    | some d =>
      have := decidableKeeps d p
      decidable_of_iff (¬ c.Drops i d ∧ (p = [] → ¬ c.ListsArguments i d) ∧ d.Keeps p)
        ⟨fun k => ⟨d, h, k⟩, fun ⟨_, hd, k⟩ => Option.some.inj (h.symm.trans hd) ▸ k⟩

/-- A call below which a node is kept is kept itself. -/
theorem keeps_of_append {c d : Concrete} {r s : Address} (hd : subtree? c r = some d)
    (hcall : d.role = .call) (h : c.Keeps (r ++ s)) : c.Keeps r := by
  induction r generalizing c with
  | nil => trivial
  | cons k r ih =>
    obtain ⟨e, he, hdrop, -, hbelow⟩ := h
    rw [subtree?_cons_of_child he] at hd
    refine ⟨e, he, hdrop, ?_, ih hd hbelow⟩
    rintro rfl ⟨-, -, hlist⟩
    cases hd
    rw [role, hlist] at hcall
    simp at hcall

/-! ## Kin -/

/-- A child by its index, with its address. -/
def childAt (c : Concrete) (i : Option Nat) : List (Address × Concrete) :=
  (i.bind fun i => c.children[i]?.map fun d => ([i], d)).toList

/-- The children that count, with their addresses. -/
def counted (c : Concrete) : List (Address × Concrete) :=
  (c.children.zipIdx.filter fun x => x.1.counts).map fun x => ([x.2], x.1)

/-- What stands for a node that may be a list of arguments: what the list holds, or the node. -/
def unlisted (x : Address × Concrete) : List (Address × Concrete) :=
  if x.2.label.kind = "arguments" then x.2.counted.map fun y => (x.1 ++ y.1, y.2) else [x]

/-- The kept nodes that come right below a kept node, by their addresses below it. For a call these are
the callee and then the arguments. -/
def kin (c : Concrete) : List (Address × Concrete) :=
  match c.role with
  | .call =>
    c.childAt (c.fieldIndex? "function") ++ (c.childAt (c.fieldIndex? "arguments")).flatMap unlisted
  | .member => c.childAt (c.fieldIndex? "object")
  | .await => c.childAt c.operandIndex?
  | .name => []
  | .other => c.counted

theorem mem_childAt {c d : Concrete} {i : Option Nat} {r : Address} :
    (r, d) ∈ c.childAt i ↔ ∃ j, i = some j ∧ r = [j] ∧ c.children[j]? = some d := by
  unfold childAt
  cases i with
  | none => simp
  | some j =>
    simp only [Option.bind_some, Option.mem_toList, Option.map_eq_some_iff, Prod.mk.injEq]
    constructor
    · rintro ⟨e, he, rfl, rfl⟩
      exact ⟨j, rfl, rfl, he⟩
    · rintro ⟨k, hk, rfl, hd⟩
      cases hk
      exact ⟨d, hd, rfl, rfl⟩

theorem mem_counted {c d : Concrete} {r : Address} :
    (r, d) ∈ c.counted ↔ ∃ j, r = [j] ∧ c.children[j]? = some d ∧ d.counts = true := by
  unfold counted
  simp only [List.mem_map, List.mem_filter, Prod.exists, Prod.mk.injEq, List.mem_zipIdx_iff_getElem?]
  constructor
  · rintro ⟨e, j, ⟨he, hc⟩, rfl, rfl⟩
    exact ⟨j, rfl, he, hc⟩
  · rintro ⟨j, rfl, he, hc⟩
    exact ⟨d, j, ⟨he, hc⟩, rfl, rfl⟩

theorem exists_of_fieldIndex {c : Concrete} {name : String} {i : Nat}
    (h : c.fieldIndex? name = some i) :
    ∃ d, c.children[i]? = some d ∧ d.label.extra = false ∧ d.label.field = some name := by
  obtain ⟨hi, hp, -⟩ := List.findIdx?_eq_some_iff_getElem.1 h
  exact ⟨c.children[i], List.getElem?_eq_getElem hi, by simpa [fills] using hp⟩

/-- Extras are left out everywhere. -/
theorem drops_of_extra {c d : Concrete} {i : Nat} (hd : c.children[i]? = some d)
    (hextra : d.label.extra = true) : c.Drops i d := by
  have hfield (name : String) : c.fieldIndex? name ≠ some i := by
    intro h
    obtain ⟨e, he, hloose, -⟩ := exists_of_fieldIndex h
    cases hd.symm.trans he
    exact absurd hextra (by rw [hloose]; decide)
  have hcounts : d.counts = false := by rw [counts, hextra, Bool.not_true, Bool.and_false]
  unfold Drops
  cases c.role with
  | call => exact ⟨hfield _, hfield _⟩
  | member => exact hfield _
  | await =>
    intro h
    obtain ⟨hi, hp, -⟩ := List.findIdx?_eq_some_iff_getElem.1 h
    rw [List.getElem?_eq_getElem hi] at hd
    cases hd
    exact absurd hp (by rw [hcounts]; decide)
  | name => trivial
  | other => exact hcounts

/-- So no node below the root that is kept is an extra. -/
theorem Keeps.not_extra {c d : Concrete} {p : Address} (h : c.Keeps p) (hd : subtree? c p = some d)
    (hp : p ≠ []) : d.label.extra = false := by
  induction p generalizing c with
  | nil => exact absurd rfl hp
  | cons i p ih =>
    obtain ⟨e, he, hdrop, -, hbelow⟩ := h
    rw [subtree?_cons_of_child he] at hd
    cases p with
    | nil =>
      cases hd
      exact Bool.eq_false_iff.2 fun hextra => hdrop (drops_of_extra he hextra)
    | cons j p => exact ih hbelow hd nofun

/-- A child fills one field only. -/
theorem fieldIndex_ne {c : Concrete} {name name' : String} {i : Nat} (h : c.fieldIndex? name = some i)
    (hne : name ≠ name') : c.fieldIndex? name' ≠ some i := by
  intro h'
  obtain ⟨d, hd, -, hf⟩ := exists_of_fieldIndex h
  obtain ⟨d', hd', -, hf'⟩ := exists_of_fieldIndex h'
  cases Option.some.inj (hd.symm.trans hd')
  exact hne (Option.some.inj (hf.symm.trans hf'))

theorem mem_unlisted {k : Nat} {d e : Concrete} {r : Address} :
    (r, e) ∈ unlisted ([k], d) ↔
      (d.label.kind ≠ "arguments" ∧ r = [k] ∧ e = d) ∨
        (d.label.kind = "arguments" ∧
          ∃ j, r = [k, j] ∧ d.children[j]? = some e ∧ e.counts = true) := by
  unfold unlisted
  split
  · rename_i h
    simp only [List.mem_map, Prod.exists, mem_counted, Prod.mk.injEq]
    constructor
    · rintro ⟨_, _, ⟨j, rfl, he, hc⟩, rfl, rfl⟩
      exact .inr ⟨h, j, rfl, he, hc⟩
    · rintro (⟨h', -⟩ | ⟨-, j, rfl, he, hc⟩)
      · exact absurd h h'
      · exact ⟨[j], e, ⟨j, rfl, he, hc⟩, rfl, rfl⟩
  · rename_i h
    simp [h]

/-- Kin stand on children that are not left out; those of an argument list stand on what it holds. -/
theorem mem_kin {c e : Concrete} {r : Address} :
    (r, e) ∈ c.kin ↔ ∃ i d, c.children[i]? = some d ∧ ¬ c.Drops i d ∧
      ((¬ c.ListsArguments i d ∧ r = [i] ∧ e = d) ∨
        (c.ListsArguments i d ∧ ∃ j, r = [i, j] ∧ d.children[j]? = some e ∧ e.counts = true)) := by
  unfold kin Drops ListsArguments
  cases hr : c.role with
  | call =>
    simp only [List.mem_append, List.mem_flatMap, Prod.exists, mem_childAt, true_and, ne_eq,
      not_and, Decidable.not_not]
    constructor
    · rintro (⟨i, hi, rfl, he⟩ | ⟨_, d, ⟨i, hi, rfl, hd⟩, hx⟩)
      · refine ⟨i, e, he, fun h => absurd hi h, .inl ⟨fun h => absurd h ?_, rfl, rfl⟩⟩
        exact fieldIndex_ne hi (by decide)
      · refine ⟨i, d, hd, fun _ => hi, ?_⟩
        obtain ⟨hk, rfl, rfl⟩ | ⟨hk, h⟩ := mem_unlisted.1 hx
        · exact .inl ⟨fun _ => hk, rfl, rfl⟩
        · exact .inr ⟨⟨hi, hk⟩, h⟩
    · rintro ⟨i, d, hd, hkept, ⟨hl, rfl, rfl⟩ | ⟨⟨hi, hk⟩, h⟩⟩
      · by_cases hi : c.fieldIndex? "function" = some i
        · exact .inl ⟨i, hi, rfl, hd⟩
        · have hi := hkept hi
          exact .inr ⟨[i], e, ⟨i, hi, rfl, hd⟩, mem_unlisted.2 (.inl ⟨hl hi, rfl, rfl⟩)⟩
      · exact .inr ⟨[i], d, ⟨i, hi, rfl, hd⟩, mem_unlisted.2 (.inr ⟨hk, h⟩)⟩
  | member | await =>
    simp only [mem_childAt, reduceCtorEq, false_and, not_false_eq_true, true_and, or_false, ne_eq,
      Decidable.not_not]
    constructor
    · rintro ⟨i, hi, rfl, he⟩
      exact ⟨i, e, he, hi, rfl, rfl⟩
    · rintro ⟨i, _, he, hi, rfl, rfl⟩
      exact ⟨i, hi, rfl, he⟩
  | name => simp
  | other =>
    simp only [mem_counted, reduceCtorEq, false_and, not_false_eq_true, true_and, or_false,
      Bool.not_eq_false]
    constructor
    · rintro ⟨i, rfl, he, hc⟩
      exact ⟨i, e, he, hc, rfl, rfl⟩
    · rintro ⟨i, _, he, hc, rfl, rfl⟩
      exact ⟨i, rfl, he, hc⟩

/-- Kin stand below the node, at their addresses. -/
theorem kin_spec {c e : Concrete} {r : Address} (h : (r, e) ∈ c.kin) :
    r ≠ [] ∧ subtree? c r = some e := by
  obtain ⟨i, d, hd, -, ⟨-, rfl, rfl⟩ | ⟨-, j, rfl, he, -⟩⟩ := mem_kin.1 h
  · exact ⟨by simp, subtree?_cons_of_child hd []⟩
  · refine ⟨by simp, ?_⟩
    calc
      subtree? c [i, j] = subtree? d [j] := subtree?_cons_of_child hd [j]
      _ = some e := subtree?_cons_of_child he []

/-- A list of arguments leaves out what does not count, as it is no node that a rule looks at. -/
theorem drops_of_listsArguments {c d : Concrete} {i : Nat} (h : c.ListsArguments i d) (j : Nat)
    (e : Concrete) : (d.Drops j e ↔ e.counts = false) ∧ ¬ d.ListsArguments j e := by
  have hr : d.role = .other := by
    unfold role
    rw [h.2.2]
    simp
  unfold Drops ListsArguments
  rw [hr]
  exact ⟨Iff.rfl, by simp⟩

/-- What is kept is reached from kin to kin. -/
theorem keeps_iff {c : Concrete} {p : Address} :
    c.Keeps p ↔ p = [] ∨ ∃ r e s, (r, e) ∈ c.kin ∧ p = r ++ s ∧ e.Keeps s := by
  cases p with
  | nil => simp [Keeps]
  | cons i p =>
    simp only [Keeps, mem_kin, reduceCtorEq, false_or]
    constructor
    · rintro ⟨d, hd, hkept, hlist, hp⟩
      by_cases hl : c.ListsArguments i d
      · cases p with
        | nil => exact absurd hl (hlist rfl)
        | cons j s =>
          obtain ⟨e, he, hdrop, -, hs⟩ := hp
          rw [(drops_of_listsArguments hl j e).1, Bool.not_eq_false] at hdrop
          exact ⟨[i, j], e, s, ⟨i, d, hd, hkept, .inr ⟨hl, j, rfl, he, hdrop⟩⟩, rfl, hs⟩
      · exact ⟨[i], d, p, ⟨i, d, hd, hkept, .inl ⟨hl, rfl, rfl⟩⟩, rfl, hp⟩
    · rintro ⟨r, e, s, ⟨k, d, hd, hkept, ⟨hl, rfl, rfl⟩ | ⟨hl, j, rfl, he, hc⟩⟩, hps, hs⟩
      · cases hps
        exact ⟨e, hd, hkept, fun _ => hl, hs⟩
      · cases hps
        obtain ⟨hdrop, hnot⟩ := drops_of_listsArguments hl j e
        refine ⟨d, hd, hkept, by simp, e, he, ?_, fun _ => hnot, hs⟩
        rw [hdrop, hc]
        decide

/-! ## Left and right -/

theorem counted_pairwise (c : Concrete) : c.counted.Pairwise fun x y => LeftOf x.1 y.1 := by
  unfold counted
  rw [List.pairwise_map]
  refine List.Pairwise.filter _ ?_
  rw [List.pairwise_iff_getElem]
  intro i j hi hj hij
  refine LeftOf.of_lt ?_ [] []
  simpa using hij

theorem childAt_pairwise (c : Concrete) (i : Option Nat) (R : Address × Concrete → _ → Prop) :
    (c.childAt i).Pairwise R := by
  unfold childAt
  cases i.bind fun i => c.children[i]?.map fun d => ([i], d) with
  | none => exact .nil
  | some x => exact List.pairwise_singleton R x

theorem unlisted_pairwise (x : Address × Concrete) :
    (unlisted x).Pairwise fun y z => LeftOf y.1 z.1 := by
  unfold unlisted
  split
  · rw [List.pairwise_map]
    exact (counted_pairwise x.2).imp fun h => h.append_left x.1
  · exact List.pairwise_singleton _ x

/-- The kin on one child stand apart from those on another child. -/
theorem exists_index_of_mem {c e : Concrete} {r : Address} {i : Option Nat}
    (h : (r, e) ∈ (c.childAt i).flatMap unlisted) : ∃ j u, i = some j ∧ r = j :: u := by
  obtain ⟨⟨q, d⟩, hx, h⟩ := List.mem_flatMap.1 h
  obtain ⟨j, rfl, rfl, -⟩ := mem_childAt.1 hx
  obtain ⟨-, rfl, -⟩ | ⟨-, k, rfl, -⟩ := mem_unlisted.1 h
  · exact ⟨j, [], rfl, rfl⟩
  · exact ⟨j, [k], rfl, rfl⟩

theorem arguments_pairwise (c : Concrete) (i : Option Nat) :
    ((c.childAt i).flatMap unlisted).Pairwise fun x y => LeftOf x.1 y.1 := by
  rw [List.pairwise_flatMap]
  exact ⟨fun x _ => unlisted_pairwise x, childAt_pairwise c i _⟩

/-- The node is a call whose arguments stand left of its callee, and the one address leads into the
callee and the other into the arguments. -/
def Swaps (c : Concrete) (p q : Address) : Prop :=
  c.role = .call ∧ ∃ i j u v, c.fieldIndex? "function" = some i ∧ c.fieldIndex? "arguments" = some j ∧
    j < i ∧ p = i :: u ∧ q = j :: v

theorem Swaps.leftOf {c : Concrete} {p q : Address} (h : c.Swaps p q) : LeftOf q p := by
  obtain ⟨-, i, j, u, v, -, -, hij, rfl, rfl⟩ := h
  exact .of_lt hij v u

theorem Swaps.append_right {c : Concrete} {p q : Address} (h : c.Swaps p q) (s t : Address) :
    c.Swaps (p ++ s) (q ++ t) := by
  obtain ⟨hr, i, j, u, v, hi, hj, hij, rfl, rfl⟩ := h
  exact ⟨hr, i, j, u ++ s, v ++ t, hi, hj, hij, rfl, rfl⟩

/-- Kin are listed from left to right, but for a callee that its arguments stand left of. -/
theorem kin_pairwise (c : Concrete) :
    c.kin.Pairwise fun x y => LeftOf x.1 y.1 ∨ c.Swaps x.1 y.1 := by
  unfold kin
  split
  · rename_i hr
    refine List.pairwise_append.2 ⟨childAt_pairwise c _ _, ?_, ?_⟩
    · exact (arguments_pairwise c _).imp .inl
    · rintro ⟨q, d⟩ hx ⟨r, e⟩ hy
      obtain ⟨i, hi, rfl, -⟩ := mem_childAt.1 hx
      obtain ⟨j, u, hj, rfl⟩ := exists_index_of_mem hy
      obtain h | rfl | h := Nat.lt_trichotomy i j
      · exact .inl (.of_lt h [] u)
      · exact absurd hj (fieldIndex_ne hi (by decide))
      · exact .inr ⟨hr, i, j, [], u, hi, hj, h, rfl, rfl⟩
  · exact childAt_pairwise c _ _
  · exact childAt_pairwise c _ _
  · exact .nil
  · exact (counted_pairwise c).imp .inl

end Fanout.Concrete
