import Mathlib.Data.List.Forall2

/-!
# Computations that may fail

* `bind_eq_ok_iff` : a sequence succeeds if its parts do;
* `mapM_eq_some_iff` : a list is computed if its elements are, one by one;
* `mapM_eq_some_map`, `mapM_eq_none` : all of its elements are computed, or one of them is not.
-/

namespace Fanout

theorem ok_bind {ε β γ : Type} (b : β) (k : β → Except ε γ) : (Except.ok b >>= k) = k b := rfl

theorem bind_eq_ok_iff {ε α β : Type} {x : Except ε α} {f : α → Except ε β} {b : β} :
    (x >>= f) = .ok b ↔ ∃ a, x = .ok a ∧ f a = .ok b := by
  cases x with
  | error e => exact ⟨nofun, fun ⟨_, h, _⟩ => nomatch h⟩
  | ok a => exact ⟨fun h => ⟨a, rfl, h⟩, fun ⟨_, h, hf⟩ => Except.ok.inj h ▸ hf⟩

theorem mapM_eq_some_iff {α β : Type} {f : α → Option β} {xs : List α} {ys : List β} :
    xs.mapM f = some ys ↔ List.Forall₂ (fun x y => f x = some y) xs ys := by
  induction xs generalizing ys with
  | nil =>
    rw [List.mapM_nil, List.forall₂_nil_left_iff, Option.pure_def, Option.some_inj]
    exact eq_comm
  | cons x xs ih =>
    rw [List.mapM_cons, List.forall₂_cons_left_iff, Option.bind_eq_bind, Option.bind_eq_some_iff]
    refine exists_congr fun y => ?_
    rw [Option.bind_eq_bind, Option.bind_eq_some_iff]
    constructor
    · rintro ⟨hy, rest, hrest, heq⟩
      exact ⟨rest, hy, ih.1 hrest, (Option.some_inj.1 heq).symm⟩
    · rintro ⟨rest, hy, hrest, rfl⟩
      exact ⟨hy, rest, ih.2 hrest, rfl⟩

theorem mapM_eq_some_map {α β : Type} {f : α → Option β} {g : α → β} {xs : List α}
    (h : ∀ x ∈ xs, f x = some (g x)) : xs.mapM f = some (xs.map g) :=
  mapM_eq_some_iff.2 (List.forall₂_map_right_iff.2 (List.forall₂_same.2 h))

theorem mapM_eq_none {α β : Type} {f : α → Option β} {xs : List α} {x : α} (hx : x ∈ xs) (h : f x = none) :
    xs.mapM f = none := by
  induction xs with
  | nil => cases hx
  | cons y xs ih =>
    rw [List.mapM_cons]
    rcases List.mem_cons.1 hx with rfl | hx
    · rw [h]
      rfl
    · rw [ih hx]
      cases f y <;> rfl

end Fanout
