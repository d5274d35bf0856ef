import Mathlib.Data.List.Nodup
import Fanout.Proofs.Tree.Address

/-!
# The order of a walk

* `preorder` : the nodes of a tree, a node before its children and these from left to right;
* `preorder_eq` : the same by recursion;
* `filter_isPrefix_addresses` : the addresses of the nodes in a subtree;
* `exists_of_lt_child` : what lies between a node and a child of it;
* `getElem?_succ_of_between` : what comes next in a list that is in order.
-/

namespace Fanout.Branching
variable {α : Type} [Branching α]

/-! ## Nodes -/

/-- The nodes of a tree in the order of their addresses. -/
def preorder (a : α) : List α := (addresses a).filterMap (subtree? a)

theorem mem_preorder {a b : α} : b ∈ preorder a ↔ ∃ p, subtree? a p = some b := by
  rw [preorder, List.mem_filterMap]
  constructor
  · rintro ⟨p, -, hp⟩
    exact ⟨p, hp⟩
  · rintro ⟨p, hp⟩
    exact ⟨p, mem_addresses_of_subtree hp, hp⟩

theorem preorder_eq (a : α) : preorder a = a :: (children a).flatMap preorder := by
  have h := List.flatMap_map (f := Prod.fst) (g := preorder) (l := (children a).zipIdx)
  rw [List.zipIdx_map_fst] at h
  rw [h, preorder, addresses_eq, List.filterMap_cons_some (subtree?_nil a), List.filterMap_flatMap]
  refine congrArg _ (List.flatMap_congr fun x hx => ?_)
  rw [List.filterMap_map]
  refine List.filterMap_congr fun p _ => ?_
  exact subtree?_cons_of_child (List.mem_zipIdx_iff_getElem?.1 hx) p

theorem self_mem_preorder (a : α) : a ∈ preorder a := mem_preorder.2 ⟨[], rfl⟩

theorem preorder_trans {a b c : α} (hb : b ∈ preorder a) (hc : c ∈ preorder b) : c ∈ preorder a := by
  obtain ⟨p, hp⟩ := mem_preorder.1 hb
  obtain ⟨q, hq⟩ := mem_preorder.1 hc
  refine mem_preorder.2 ⟨p ++ q, ?_⟩
  rw [subtree?_append, hp, Option.bind_some, hq]

theorem mem_preorder_of_mem_children {a b : α} (h : b ∈ children a) : b ∈ preorder a := by
  rw [preorder_eq]
  exact List.mem_cons_of_mem _ (List.mem_flatMap.2 ⟨b, h, self_mem_preorder b⟩)

/-! ## Subtrees -/

/-- The addresses in a subtree are those that go on from the address of its root. -/
theorem filter_isPrefix_addresses {a b : α} {p : Address} (h : subtree? a p = some b) :
    (addresses a).filter (fun q => p <+: q) = (addresses b).map (p ++ ·) := by
  have hleft : ((addresses a).filter fun q => p <+: q).Pairwise (· < ·) :=
    (addresses_pairwise_lt a).filter _
  have hright : ((addresses b).map (p ++ ·)).Pairwise (· < ·) := by
    rw [List.pairwise_map]
    exact (addresses_pairwise_lt b).imp fun hlt => List.append_left_lt hlt
  have hnodup : ((addresses b).map (p ++ ·)).Nodup :=
    (addresses_nodup b).map fun _ _ heq => List.append_cancel_left heq
  refine List.Perm.eq_of_pairwise (fun q r _ _ hqr hrq => ?_) hleft hright ?_
  · exact absurd hrq (List.lt_asymm hqr)
  · refine (List.perm_ext_iff_of_nodup ((addresses_nodup a).filter _) hnodup).2 fun q => ?_
    rw [List.mem_filter, List.mem_map, decide_eq_true_iff]
    constructor
    · rintro ⟨hq, r, rfl⟩
      rw [mem_addresses, subtree?_append, h, Option.bind_some] at hq
      exact ⟨r, mem_addresses.2 hq, rfl⟩
    · rintro ⟨r, hr, rfl⟩
      refine ⟨?_, List.prefix_append p r⟩
      rw [mem_addresses, subtree?_append, h, Option.bind_some]
      exact mem_addresses.1 hr

end Branching

/-! ## Order -/

/-- Between a node and a child of it lie only the subtrees of the children on the left. -/
theorem exists_of_lt_child {p q : Address} {i : Nat} (hpq : p < q) (hq : q < p ++ [i]) :
    ∃ j u, j < i ∧ q = p ++ j :: u := by
  rcases isPrefix_or_leftOf_of_lt hpq with ⟨t, rfl⟩ | hleft
  · cases t with
    | nil =>
      rw [List.append_nil] at hpq
      exact absurd hpq (List.lt_irrefl p)
    | cons j u =>
      refine ⟨j, u, ?_, rfl⟩
      rcases Nat.lt_trichotomy j i with hlt | rfl | hlt
      · exact hlt
      · have hprefix : p ++ [j] <+: p ++ j :: u := ⟨u, by simp⟩
        by_cases he : p ++ [j] = p ++ j :: u
        · rw [← he] at hq
          exact absurd hq (List.lt_irrefl _)
        · exact absurd hq (List.lt_asymm (lt_of_isPrefix hprefix he))
      · exact absurd hq (List.lt_asymm ((LeftOf.of_lt hlt [] u).append_left p).lt)
  · have hafter := (hleft.append_right [i] []).lt
    rw [List.append_nil] at hafter
    exact absurd hq (List.lt_asymm hafter)

/-- In a list of addresses that is in order, an address comes right behind another one if none of the list
lies between them. -/
theorem getElem?_succ_of_between {l : List Address} (hl : l.Pairwise (· < ·)) {k : Nat} {p q : Address}
    (hp : l[k]? = some p) (hq : q ∈ l) (hpq : p < q) (hbetween : ∀ r ∈ l, p < r → ¬ r < q) :
    l[k + 1]? = some q := by
  obtain ⟨hk, rfl⟩ := List.getElem?_eq_some_iff.1 hp
  obtain ⟨j, hj, rfl⟩ := List.getElem_of_mem hq
  rw [List.pairwise_iff_getElem] at hl
  obtain hlt | rfl | hlt := Nat.lt_trichotomy k j
  · obtain rfl | hne := Nat.eq_or_lt_of_le (show k + 1 ≤ j from hlt)
    · exact List.getElem?_eq_getElem hj
    · have hk' : k + 1 < l.length := by omega
      have hgap := hbetween l[k + 1] (List.getElem_mem hk') (hl k (k + 1) hk hk' (Nat.lt_succ_self k))
      exact absurd (hl (k + 1) j hk' hj hne) hgap
  · exact absurd hpq (List.lt_irrefl _)
  · exact absurd hpq (List.lt_asymm (hl j k hj hk hlt))

end Fanout
