/-!
# Addresses in a tree

* `Branching` : trees, by the children of a node;
* `Address` : the way from a root down to a node, as the index of the child to take at each level;
* `subtree?` : the node at an address;
* `addresses` : the addresses of all nodes in pre-order;
* `mem_addresses` : they are the addresses that lead to a node;
* `addresses_pairwise_lt` : pre-order is the order of the dictionary, so no address is listed twice;
* `LeftOf` : an address that turns off to the left of another one.

One address is a beginning of another exactly where its node lies above the other's node. Of two
addresses one is a beginning of the other, or one turns off to the left of the other.
-/

namespace Fanout

/-- A type of trees: no way down from a node to a child and on is endless. -/
class Branching (α : Type) where
  children : α → List α
  wellFounded : WellFounded fun b a => b ∈ children a

abbrev Address := List Nat

/-! ## Turning off -/

/-- Behind a common beginning, the one address goes to an earlier child than the other. -/
def LeftOf (p q : Address) : Prop := ∃ s i j u v, i < j ∧ p = s ++ i :: u ∧ q = s ++ j :: v

namespace LeftOf
variable {p q : Address}

theorem of_lt {i j : Nat} (h : i < j) (u v : Address) : LeftOf (i :: u) (j :: v) :=
  ⟨[], i, j, u, v, h, rfl, rfl⟩

theorem append_left (h : LeftOf p q) (s : Address) : LeftOf (s ++ p) (s ++ q) := by
  obtain ⟨t, i, j, u, v, hij, rfl, rfl⟩ := h
  exact ⟨s ++ t, i, j, u, v, hij, (List.append_assoc ..).symm, (List.append_assoc ..).symm⟩

theorem append_right (h : LeftOf p q) (x y : Address) : LeftOf (p ++ x) (q ++ y) := by
  obtain ⟨t, i, j, u, v, hij, rfl, rfl⟩ := h
  exact ⟨t, i, j, u ++ x, v ++ y, hij, by simp, by simp⟩

theorem lt (h : LeftOf p q) : p < q := by
  obtain ⟨s, i, j, u, v, hij, rfl, rfl⟩ := h
  exact List.append_left_lt (List.cons_lt_cons_iff.2 (.inl hij))

theorem not_isPrefix (h : LeftOf p q) : ¬ p <+: q := by
  obtain ⟨s, i, j, u, v, hij, rfl, rfl⟩ := h
  rw [List.prefix_append_right_inj, List.cons_prefix_cons]
  omega

theorem not_isPrefix' (h : LeftOf p q) : ¬ q <+: p := by
  obtain ⟨s, i, j, u, v, hij, rfl, rfl⟩ := h
  rw [List.prefix_append_right_inj, List.cons_prefix_cons]
  omega

end LeftOf

theorem isPrefix_or_leftOf (p q : Address) : p <+: q ∨ q <+: p ∨ LeftOf p q ∨ LeftOf q p := by
  induction p generalizing q with
  | nil => exact .inl List.nil_prefix
  | cons i p ih =>
    cases q with
    | nil => exact .inr (.inl List.nil_prefix)
    | cons j q =>
      obtain h | rfl | h := Nat.lt_trichotomy i j
      · exact .inr (.inr (.inl (.of_lt h p q)))
      · simp only [List.cons_prefix_cons, true_and]
        exact (ih q).imp id (Or.imp id (Or.imp (·.append_left [i]) (·.append_left [i])))
      · exact .inr (.inr (.inr (.of_lt h q p)))

theorem lt_of_isPrefix {p q : Address} (h : p <+: q) (hne : p ≠ q) : p < q := by
  obtain ⟨s, rfl⟩ := h
  cases s with
  | nil => exact absurd (List.append_nil p).symm hne
  | cons i s =>
    have h : p ++ [] < p ++ i :: s := List.append_left_lt (List.nil_lt_cons i s)
    rwa [List.append_nil] at h

/-- The order of the dictionary is that of a walk: what lies above comes first, then what lies to the
left. -/
theorem isPrefix_or_leftOf_of_lt {p q : Address} (h : p < q) : p <+: q ∨ LeftOf p q := by
  obtain h' | h' | h' | h' := isPrefix_or_leftOf p q
  · exact .inl h'
  · by_cases he : q = p
    · exact .inl (he ▸ List.prefix_rfl)
    · exact absurd h (List.lt_asymm (lt_of_isPrefix h' he))
  · exact .inr h'
  · exact absurd h (List.lt_asymm h'.lt)

/-! ## Addresses of a tree -/

namespace Branching
variable {α : Type} [Branching α]

/-- What holds of a node when it holds of its children holds of every tree. -/
theorem induction {motive : α → Prop} (step : ∀ a, (∀ b ∈ children a, motive b) → motive a) (a : α) :
    motive a := wellFounded.induction a step

/-- Recursion from a node to its children. -/
local instance descent : WellFoundedRelation α := ⟨fun b a => b ∈ children a, wellFounded⟩

/-- The node at an address. -/
def subtree? : α → Address → Option α
  | a, [] => some a
  | a, i :: p => ((children a)[i]?).bind fun b => subtree? b p

@[simp] theorem subtree?_nil (a : α) : subtree? a [] = some a := rfl

theorem subtree?_cons (a : α) (i : Nat) (p : Address) :
    subtree? a (i :: p) = ((children a)[i]?).bind fun b => subtree? b p := rfl

theorem subtree?_cons_of_child {a b : α} {i : Nat} (h : (children a)[i]? = some b) (p : Address) :
    subtree? a (i :: p) = subtree? b p := by
  rw [subtree?_cons, h, Option.bind_some]

theorem subtree?_append (a : α) (p q : Address) :
    subtree? a (p ++ q) = (subtree? a p).bind fun b => subtree? b q := by
  induction p generalizing a with
  | nil => rfl
  | cons i p ih =>
    rw [List.cons_append, subtree?_cons, subtree?_cons, Option.bind_assoc]
    exact Option.bind_congr fun b _ => ih b

/-- The addresses of all nodes in pre-order. -/
def addresses (a : α) : List Address :=
  [] :: (children a).attach.zipIdx.flatMap fun x => (addresses x.1.1).map (x.2 :: ·)
termination_by a
decreasing_by exact x.1.2

theorem addresses_eq (a : α) :
    addresses a = [] :: (children a).zipIdx.flatMap fun x => (addresses x.1).map (x.2 :: ·) := by
  have h := List.zipIdx_map (f := Subtype.val) (l := (children a).attach) (k := 0)
  rw [List.attach_map_subtype_val] at h
  rw [addresses, h, List.flatMap_map]
  rfl

theorem mem_addresses {a : α} {p : Address} : p ∈ addresses a ↔ (subtree? a p).isSome := by
  induction p generalizing a with
  | nil => rw [addresses_eq]; simp
  | cons i p ih =>
    rw [addresses_eq, subtree?_cons]
    constructor
    · intro h
      rw [List.mem_cons, List.mem_flatMap] at h
      obtain h | ⟨⟨b, j⟩, hb, h⟩ := h
      · cases h
      · obtain ⟨q, hq, h⟩ := List.mem_map.1 h
        cases h
        rw [List.mem_zipIdx_iff_getElem?.1 hb]
        exact ih.1 hq
    · intro h
      cases hb : (children a)[i]? with
      | none => rw [hb] at h; cases h
      | some b =>
        rw [hb] at h
        refine List.mem_cons_of_mem _ (List.mem_flatMap.2 ⟨(b, i), ?_, ?_⟩)
        · exact List.mem_zipIdx_iff_getElem?.2 hb
        · exact List.mem_map.2 ⟨p, ih.2 h, rfl⟩

theorem exists_subtree {a : α} {p : Address} (h : p ∈ addresses a) : ∃ b, subtree? a p = some b :=
  Option.isSome_iff_exists.1 (mem_addresses.1 h)

theorem mem_addresses_of_subtree {a b : α} {p : Address} (h : subtree? a p = some b) :
    p ∈ addresses a := mem_addresses.2 (h ▸ rfl)

/-- An address that goes on below an address of a node passes through that node. -/
theorem mem_addresses_of_isPrefix {a : α} {p q : Address} (h : p <+: q) (hq : q ∈ addresses a) :
    p ∈ addresses a := by
  obtain ⟨s, rfl⟩ := h
  obtain ⟨b, hb⟩ := exists_subtree hq
  rw [subtree?_append] at hb
  obtain ⟨c, hc, -⟩ := Option.bind_eq_some_iff.1 hb
  exact mem_addresses_of_subtree hc

/-- Pre-order is the order of the dictionary. -/
theorem addresses_pairwise_lt (a : α) : (addresses a).Pairwise (· < ·) := by
  induction a using induction with
  | step a ih =>
    rw [addresses_eq, List.pairwise_cons]
    constructor
    · intro p hp
      obtain ⟨x, -, hp⟩ := List.mem_flatMap.1 hp
      obtain ⟨q, -, rfl⟩ := List.mem_map.1 hp
      exact List.nil_lt_cons _ _
    · rw [List.pairwise_flatMap]
      constructor
      · intro x hx
        have hb : x.1 ∈ children a := List.mem_of_getElem? (List.mem_zipIdx_iff_getElem?.1 hx)
        rw [List.pairwise_map]
        exact (ih x.1 hb).imp fun h => List.cons_lt_cons_iff.2 (.inr ⟨rfl, h⟩)
      · rw [List.pairwise_iff_getElem]
        intro i j hi hj hij p hp q hq
        obtain ⟨p, -, rfl⟩ := List.mem_map.1 hp
        obtain ⟨q, -, rfl⟩ := List.mem_map.1 hq
        refine List.cons_lt_cons_iff.2 (.inl ?_)
        simpa using hij

theorem addresses_nodup (a : α) : (addresses a).Nodup := by
  rw [List.nodup_iff_pairwise_ne]
  refine (addresses_pairwise_lt a).imp ?_
  rintro p _ h rfl
  exact List.lt_irrefl p h

end Branching
end Fanout
