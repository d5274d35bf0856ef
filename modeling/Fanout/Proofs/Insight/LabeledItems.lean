import Fanout.Proofs.Insight.LabeledFigures
import Fanout.Proofs.Text.Trim

/-!
# Items of a labeled list

* `Ordinal` : the number at the start of an item;
* `Item.ofLine?_ordinal` : what an item says does not depend on its ordinal;
* `Item.ofText?_cases` : an item has a tag and what follows it, or no tag and the whole text;
* `IsItem` : a line with an ordinal, blanks and a text, and `isSome_ofLine?_iff` : these lines are the items.
-/

namespace Fanout.Labeled
open Text

/-- A text of blanks alone. -/
def Blank (cs : List Char) : Prop := ∀ c ∈ cs, isBlank c = true

instance (cs : List Char) : Decidable (Blank cs) := decidable_of_iff (cs.all isBlank = true) List.all_eq_true

theorem blank_iff_dropWhile {cs : List Char} : Blank cs ↔ cs.dropWhile isBlank = [] :=
  List.dropWhile_eq_nil_iff.symm

theorem blank_takeWhile (cs : List Char) : Blank (cs.takeWhile isBlank) := fun _ => List.mem_takeWhile_imp

/-! ## Ordinals -/

/-- The number at the start of an item: digits with a point or a bracket behind them, and blanks or none before
them. -/
def Ordinal (cs : List Char) : Prop :=
  ∃ indent digits mark, cs = indent ++ (digits ++ [mark]) ∧ Blank indent ∧ digits ≠ [] ∧
    (∀ c ∈ digits, isDecimalDigit c = true) ∧ (mark = '.' ∨ mark = ')')

theorem mark_not_digit {mark : Char} (h : mark = '.' ∨ mark = ')') : isDecimalDigit mark = false := by
  obtain rfl | rfl := h <;> decide

/-- The first character of an ordinal that is no blank is a digit. -/
theorem Ordinal.dropWhile_append {ordinal : List Char} (h : Ordinal ordinal) (rest : List Char) :
    ∃ digits mark, (ordinal ++ rest).dropWhile isBlank = digits ++ mark :: rest ∧ digits ≠ [] ∧
      (∀ c ∈ digits, isDecimalDigit c = true) ∧ (mark = '.' ∨ mark = ')') := by
  obtain ⟨indent, digits, mark, rfl, hindent, hne, hdigits, hmark⟩ := h
  refine ⟨digits, mark, ?_, hne, hdigits, hmark⟩
  obtain ⟨d, ds, rfl⟩ := List.exists_cons_of_ne_nil hne
  have hd : isBlank d = false := isBlank_of_isDecimalDigit (hdigits d List.mem_cons_self)
  rw [List.append_assoc, List.dropWhile_append_of_pos hindent, List.append_assoc, List.singleton_append,
    List.cons_append, List.dropWhile_cons_of_neg (by simp [hd])]

namespace Item

/-- What an item says does not depend on its ordinal. -/
theorem ofLine?_ordinal {ordinal : List Char} (h : Ordinal ordinal) (rest : List Char) :
    ofLine? (ordinal ++ rest) =
      if rest.takeWhile isBlank = [] then none
      else ofText? (rest.takeWhile isBlank) (rest.dropWhile isBlank) := by
  obtain ⟨digits, mark, hstart, hne, hdigits, hmark⟩ := h.dropWhile_append rest
  obtain ⟨htake, hdrop⟩ := takeWhile_digits (List.all_eq_true.2 hdigits) (mark_not_digit hmark) rest
  simp only [ofLine?, hstart, htake, hdrop]
  obtain rfl | rfl := hmark <;> simp [hne]

theorem exists_ordinal {line : List Char} {i : Item} (h : ofLine? line = some i) :
    ∃ ordinal rest, line = ordinal ++ rest ∧ Ordinal ordinal ∧ rest.takeWhile isBlank ≠ [] ∧
      ofText? (rest.takeWhile isBlank) (rest.dropWhile isBlank) = some i := by
  simp only [ofLine?] at h
  split at h
  · next mark rest hdrop =>
    obtain ⟨hno, htext⟩ := Option.ite_none_left_eq_some.1 h
    simp only [Bool.or_eq_true, Bool.not_eq_true', Bool.or_eq_false_iff, beq_eq_false_iff_ne, not_or,
      List.isEmpty_iff, not_and_or, Decidable.not_not] at hno
    obtain ⟨⟨hdigits, hmark⟩, hblanks⟩ := hno
    refine ⟨line.takeWhile isBlank ++ ((line.dropWhile isBlank).takeWhile isDecimalDigit ++ [mark]), rest, ?_,
      ⟨_, _, mark, rfl, blank_takeWhile line, hdigits, fun _ => List.mem_takeWhile_imp, hmark⟩, hblanks, htext⟩
    rw [List.append_assoc, List.append_assoc, List.singleton_append, ← hdrop, List.takeWhile_append_dropWhile,
      List.takeWhile_append_dropWhile]
  · cases h

end Item

/-! ## Items -/

/-- The line is an ordinal, blanks, and this text behind them. -/
def Numbered (line text : List Char) : Prop :=
  ∃ ordinal gap, line = ordinal ++ (gap ++ text) ∧ Ordinal ordinal ∧ gap ≠ [] ∧ Blank gap

/-- A line of a numbered list. Its text may be anything but nothing. -/
def IsItem (line : List Char) : Prop := ∃ text, Numbered line text ∧ text ≠ []

namespace Item

theorem ofLine?_numbered {line text : List Char} (h : Numbered line text) :
    ∃ gap, gap ≠ [] ∧ ofLine? line = ofText? (gap ++ text.takeWhile isBlank) (text.dropWhile isBlank) := by
  obtain ⟨ordinal, gap, rfl, hordinal, hne, hgap⟩ := h
  refine ⟨gap, hne, ?_⟩
  rw [ofLine?_ordinal hordinal, List.takeWhile_append_of_pos hgap, List.dropWhile_append_of_pos hgap, if_neg]
  simp [hne]

/-- What an item says: a tag and what follows it, or the whole text where nothing follows a tag. -/
theorem ofText?_cases {blanks cs : List Char} {i : Item} (h : ofText? blanks cs = some i) :
    (∃ word rest, tag? cs = some (word, rest) ∧ rest ≠ [] ∧ i = ⟨some word, trim rest⟩) ∨
      (∀ word rest, tag? cs = some (word, rest) → rest = []) ∧ i = ⟨none, trimEnd cs⟩ := by
  have untagged (h : (if !cs.isEmpty then some ⟨none, trimEnd cs⟩
      else if blanks.length > 1 then some ⟨none, []⟩ else none) = some i) : i = ⟨none, trimEnd cs⟩ := by
    cases cs with
    | nil =>
      obtain ⟨-, h⟩ := Option.ite_none_right_eq_some.1 h
      exact (Option.some_inj.1 h).symm
    | cons c cs => exact (Option.some_inj.1 h).symm
  unfold ofText? at h
  cases htag : tag? cs with
  | none =>
    rw [htag] at h
    exact .inr ⟨nofun, untagged h⟩
  | some tag =>
    obtain ⟨word, rest⟩ := tag
    rw [htag] at h
    by_cases hrest : rest = []
    · subst hrest
      refine .inr ⟨fun word' rest' htag' => ?_, untagged h⟩
      cases htag'
      rfl
    · refine .inl ⟨word, rest, rfl, hrest, ?_⟩
      rw [trim, trimStart]
      by_cases hblank : rest.dropWhile isBlank = []
      · simp only [hblank, List.isEmpty_nil, Bool.not_true, Bool.false_eq_true, if_false, Bool.not_eq_true',
          List.isEmpty_eq_false_iff.2 hrest, if_true] at h ⊢
        exact (Option.some_inj.1 h).symm
      · simp only [List.isEmpty_eq_false_iff.2 hblank, Bool.not_false, if_true] at h
        exact (Option.some_inj.1 h).symm

/-- A text is read if there is one. A blank behind the first one counts as a text. -/
theorem isSome_ofText?_iff {blanks cs : List Char} :
    (ofText? blanks cs).isSome = true ↔ cs ≠ [] ∨ 1 < blanks.length := by
  cases cs with
  | nil => simp [ofText?, tag?]
  | cons c cs =>
    simp only [ofText?]
    split
    · simp
    · split_ifs <;> simp_all

theorem exists_numbered {line : List Char} {i : Item} (h : ofLine? line = some i) :
    ∃ text, Numbered line text ∧ text ≠ [] := by
  obtain ⟨ordinal, rest, rfl, hordinal, hblanks, htext⟩ := exists_ordinal h
  have hrest := List.takeWhile_append_dropWhile (p := isBlank) (l := rest)
  have hblank := blank_takeWhile rest
  generalize rest.takeWhile isBlank = blanks at hblanks htext hrest hblank
  generalize rest.dropWhile isBlank = cs at htext hrest
  subst hrest
  obtain hcs | hlength := isSome_ofText?_iff.1 (Option.isSome_of_eq_some htext)
  · exact ⟨cs, ⟨ordinal, blanks, rfl, hordinal, hblanks, hblank⟩, hcs⟩
  · -- The first blank is the gap, and the text begins with the others.
    obtain ⟨b, bs, rfl⟩ := List.exists_cons_of_ne_nil hblanks
    have hbs : bs ≠ [] := by
      rintro rfl
      simp at hlength
    have hgap : Blank [b] := fun c hc => hblank c (List.mem_append_left bs hc)
    exact ⟨bs ++ cs, ⟨ordinal, [b], by simp, hordinal, by simp, hgap⟩, by simp [hbs]⟩

end Item

theorem isSome_ofLine?_iff {line : List Char} : (Item.ofLine? line).isSome = true ↔ IsItem line := by
  constructor
  · intro h
    obtain ⟨i, hi⟩ := Option.isSome_iff_exists.1 h
    exact Item.exists_numbered hi
  · rintro ⟨text, hnumbered, hne⟩
    obtain ⟨gap, hgap, hline⟩ := Item.ofLine?_numbered hnumbered
    rw [hline, Item.isSome_ofText?_iff, or_iff_not_imp_left, Decidable.not_not]
    intro hblank
    have htext := List.takeWhile_append_dropWhile (p := isBlank) (l := text)
    rw [hblank, List.append_nil] at htext
    have hgap := List.length_pos_iff.2 hgap
    have hne := List.length_pos_iff.2 hne
    rw [List.length_append, htext]
    omega

instance : DecidablePred IsItem := fun _ => decidable_of_iff _ isSome_ofLine?_iff

end Fanout.Labeled
