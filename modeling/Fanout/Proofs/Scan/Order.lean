import Mathlib.Logic.Equiv.Defs
import Fanout.Proofs.Files.Lift

/-!
# Lists taken in any order

* `Order` : for lists of each length, an order in which their places are taken;
* `mapInOrder` : an outcome for each element, put in the place of the element, with the elements taken in
  some order;
* `mapInOrder_pure` : where outcomes have no effect, the order does not matter.
-/

namespace Fanout

/-- For lists of each length, an order in which their places are taken: place `order n k` is the one that
is taken as number `k`. -/
abbrev Order := ∀ n, Equiv.Perm (Fin n)

section
variable {m : Type → Type} [Monad m] {α β : Type}

/-- An outcome for each element in the place of the element, with the elements taken in some order. -/
def mapInOrder (order : Order) (f : α → m β) (xs : List α) : m (List β) := do
  let slots ← (List.finRange xs.length).foldlM
    (fun slots k => do pure (slots.set (order _ k).val (some (← f xs[order _ k]))))
    (List.replicate xs.length none)
  pure (slots.filterMap id)

theorem length_foldl_set {n : Nat} (taken : List (Fin n)) (outcome : Fin n → Nat × Option β)
    (slots : List (Option β)) :
    (taken.foldl (fun slots k => slots.set (outcome k).1 (outcome k).2) slots).length = slots.length := by
  induction taken generalizing slots with
  | nil => rfl
  | cons k taken ih => rw [List.foldl_cons, ih, List.length_set]

/-- A place holds its outcome from when it has been taken. -/
theorem getElem?_foldl_set {xs : List α} (g : α → β) (place : Fin xs.length → Fin xs.length)
    (taken : List (Fin xs.length)) (slots : List (Option β)) (hlen : slots.length = xs.length)
    (i : Fin xs.length) (hi : i ∈ taken.map place ∨ slots[i.val]? = some (some (g xs[i]))) :
    (taken.foldl (fun slots k => slots.set (place k).val (some (g xs[place k]))) slots)[i.val]? =
      some (some (g xs[i])) := by
  induction taken generalizing slots with
  | nil => exact hi.resolve_left (by simp)
  | cons k taken ih =>
    rw [List.foldl_cons]
    refine ih _ (by rw [List.length_set, hlen]) ?_
    by_cases hk : i = place k
    · subst hk
      exact .inr (List.getElem?_set_self (by rw [hlen]; exact (place k).isLt))
    · have hne : (place k).val ≠ i.val := fun h => hk (Fin.ext h.symm)
      rw [List.getElem?_set_ne hne]
      exact hi.imp_left fun hmem => (List.mem_cons.1 hmem).resolve_left hk

theorem mapInOrder_pure [LawfulMonad m] (order : Order) (g : α → β) (xs : List α) :
    mapInOrder order (fun a => (pure (g a) : m β)) xs = pure (xs.map g) := by
  have hslots :
      (List.finRange xs.length).foldl
          (fun slots k => slots.set (order _ k).val (some (g xs[order _ k])))
          (List.replicate xs.length none) =
        (xs.map g).map some := by
    refine List.ext_getElem? fun i => ?_
    by_cases hi : i < xs.length
    · have hget := getElem?_foldl_set g (order xs.length) (List.finRange xs.length)
        (List.replicate xs.length none) List.length_replicate ⟨i, hi⟩
      have hmem : (⟨i, hi⟩ : Fin xs.length) ∈ (List.finRange xs.length).map (order xs.length) :=
        List.mem_map.2 ⟨(order xs.length).symm ⟨i, hi⟩, List.mem_finRange _, by simp⟩
      rw [hget (.inl hmem)]
      simp [hi]
    · have hlen := length_foldl_set (List.finRange xs.length)
        (fun k => ((order _ k).val, some (g xs[order _ k]))) (List.replicate xs.length none)
      rw [List.length_replicate] at hlen
      rw [List.getElem?_eq_none (by rw [hlen]; omega), List.getElem?_eq_none (by simpa using hi)]
  simp only [mapInOrder, pure_bind, List.foldlM_pure, hslots]
  simp

end
end Fanout
