import Mathlib.Data.List.TakeWhile
import Fanout.Proofs.Text.Lines

/-!
# Trimming

* `Trimmed` : a text with no blank at either end;
* `exists_trim`, `trim_append` : a text is its trimmed form with blanks around it, and no other trimmed text with
  blanks around it;
* `trim_eq_nil_iff` : nothing is left of blanks alone;
* `dropEndWhile_eq` : where an ending that is dropped begins.
-/

namespace Fanout.Text

section
variable {p : Char → Bool} {cs : List Char}

theorem dropEndWhile_of_all {ending : List Char} (h : ∀ c ∈ ending, p c = true) (cs : List Char) :
    dropEndWhile p (cs ++ ending) = dropEndWhile p cs := by
  rw [dropEndWhile, List.reverse_append,
    List.dropWhile_append_of_pos fun c hc => h c (List.mem_reverse.1 hc), dropEndWhile]

theorem dropWhile_eq_cons {rest : List Char} {c : Char} (h : cs.dropWhile p = c :: rest) :
    ∃ front, cs = front ++ c :: rest ∧ (∀ x ∈ front, p x = true) ∧ p c = false := by
  refine ⟨cs.takeWhile p, ?_, fun x hx => List.mem_takeWhile_imp hx, ?_⟩
  · rw [← h, List.takeWhile_append_dropWhile]
  · have hhead := List.head?_dropWhile_not p cs
    rw [h] at hhead
    exact hhead

theorem dropEndWhile_eq {body : List Char} (h : dropEndWhile p cs = body) (hne : body ≠ []) :
    ∃ front c after, body = front ++ [c] ∧ cs = body ++ after ∧ (∀ x ∈ after, p x = true) ∧ p c = false := by
  subst h
  rw [dropEndWhile, Ne, List.reverse_eq_nil_iff] at hne
  obtain ⟨c, inner, hcut⟩ := List.exists_cons_of_ne_nil hne
  obtain ⟨after, hcs, hafter, hc⟩ := dropWhile_eq_cons hcut
  refine ⟨inner.reverse, c, after.reverse, ?_, ?_, fun x hx => hafter x (List.mem_reverse.1 hx), hc⟩
  · rw [dropEndWhile, hcut, List.reverse_cons]
  · rw [← List.reverse_inj, hcs, dropEndWhile, hcut, List.reverse_append, List.reverse_reverse,
      List.reverse_reverse]

theorem dropEndWhile_eq_self (h : ∀ c ∈ cs.getLast?, p c = false) : dropEndWhile p cs = cs := by
  have hreverse : cs.reverse.dropWhile p = cs.reverse := by
    cases hr : cs.reverse with
    | nil => rfl
    | cons c rest =>
      have hlast : cs.getLast? = some c := by rw [← List.head?_reverse, hr, List.head?_cons]
      exact List.dropWhile_cons_of_neg (by simp [h c hlast])
  rw [dropEndWhile, hreverse, List.reverse_reverse]

theorem exists_dropEndWhile (p : Char → Bool) (cs : List Char) :
    ∃ after, cs = dropEndWhile p cs ++ after ∧ ∀ c ∈ after, p c = true := by
  refine ⟨(cs.reverse.takeWhile p).reverse, ?_, fun c hc => ?_⟩
  · rw [dropEndWhile, ← List.reverse_append, List.takeWhile_append_dropWhile, List.reverse_reverse]
  · exact List.mem_takeWhile_imp (List.mem_reverse.1 hc)

end

/-- No blank stands at either end. -/
def Trimmed (cs : List Char) : Prop :=
  (∀ c ∈ cs.head?, isBlank c = false) ∧ ∀ c ∈ cs.getLast?, isBlank c = false

namespace Trimmed
variable {cs : List Char} (h : Trimmed cs)
include h

theorem dropWhile_eq : cs.dropWhile isBlank = cs := by
  cases cs with
  | nil => rfl
  | cons c cs => exact List.dropWhile_cons_of_neg (by simp [h.1 c rfl])

theorem trimEnd_eq : trimEnd cs = cs := dropEndWhile_eq_self h.2

/-- Only the blanks around a trimmed text are dropped. -/
theorem trim_append {before after : List Char} (hbefore : ∀ c ∈ before, isBlank c = true)
    (hafter : ∀ c ∈ after, isBlank c = true) : trim (before ++ (cs ++ after)) = cs := by
  rw [trim, trimStart, List.dropWhile_append_of_pos hbefore, List.dropWhile_append, h.dropWhile_eq,
    List.dropWhile_eq_nil_iff.2 hafter]
  split
  · next hcs =>
    rw [List.isEmpty_iff.1 hcs]
    rfl
  · rw [trimEnd, dropEndWhile_of_all hafter]
    exact h.trimEnd_eq

theorem trim_eq : trim cs = cs := by rw [trim, trimStart, h.dropWhile_eq, h.trimEnd_eq]

end Trimmed

/-- Of a text between two others only the outer ends matter. -/
theorem Trimmed.append {start ending : List Char} (hs : Trimmed start) (he : Trimmed ending) (hstart : start ≠ [])
    (hending : ending ≠ []) (middle : List Char) : Trimmed (start ++ (middle ++ ending)) := by
  constructor
  · intro c hc
    rw [List.head?_append, List.head?_eq_some_head hstart, Option.some_or] at hc
    exact hs.1 c ((List.head?_eq_some_head hstart).trans hc)
  · intro c hc
    rw [← List.append_assoc, List.getLast?_append, List.getLast?_eq_some_getLast hending, Option.some_or] at hc
    exact he.2 c ((List.getLast?_eq_some_getLast hending).trans hc)

/-- A text without blanks is trimmed. -/
theorem trimmed_of_not_blank {cs : List Char} (h : ∀ c ∈ cs, isBlank c = false) : Trimmed cs :=
  ⟨fun c hc => h c (List.mem_of_mem_head? hc), fun c hc => h c (List.mem_of_mem_getLast? hc)⟩

theorem exists_trim (cs : List Char) :
    ∃ before after, cs = before ++ (trim cs ++ after) ∧ (∀ c ∈ before, isBlank c = true) ∧
      ∀ c ∈ after, isBlank c = true := by
  obtain ⟨after, hcs, hafter⟩ := exists_dropEndWhile isBlank (cs.dropWhile isBlank)
  refine ⟨cs.takeWhile isBlank, after, ?_, fun c hc => List.mem_takeWhile_imp hc, hafter⟩
  rw [trim, trimStart, trimEnd, ← hcs, List.takeWhile_append_dropWhile]

theorem trimmed_trim (cs : List Char) : Trimmed (trim cs) := by
  constructor
  · intro c hc
    obtain ⟨rest, hrest⟩ := List.head?_eq_some_iff.1 hc
    obtain ⟨after, hcs, -⟩ := exists_dropEndWhile isBlank (cs.dropWhile isBlank)
    have hstart : cs.dropWhile isBlank = c :: (rest ++ after) := by
      rw [hcs, ← List.cons_append, ← hrest]
      rfl
    obtain ⟨-, -, -, hc⟩ := dropWhile_eq_cons hstart
    exact hc
  · intro c hc
    have hne : trim cs ≠ [] := by
      rintro h
      rw [h] at hc
      cases hc
    obtain ⟨front, last, after, hbody, -, -, hlast⟩ := dropEndWhile_eq (rfl : _ = trim cs) hne
    rw [hbody, List.getLast?_concat] at hc
    cases hc
    exact hlast

theorem trim_eq_nil_iff {cs : List Char} : trim cs = [] ↔ ∀ c ∈ cs, isBlank c = true := by
  constructor
  · intro h
    obtain ⟨before, after, hcs, hbefore, hafter⟩ := exists_trim cs
    rw [h, List.nil_append] at hcs
    rw [hcs, List.forall_mem_append]
    exact ⟨hbefore, hafter⟩
  · intro h
    rw [trim, trimStart, List.dropWhile_eq_nil_iff.2 h]
    rfl

end Fanout.Text
