import Fanout.Insight.Figure
import Fanout.Proofs.Text.Trim

/-!
# Figures in texts

* `Visible` : characters of ASCII behind the percent sign, which are no blanks;
* `visible_of_floatOfText?` : what is read as a number is made of visible characters;
* `SpellsFigure` : a text that holds a finite number, perhaps with percent signs behind it, and blanks around
  both;
* `figureOfText_of_spells`, `figureOfText_of_not_spells` : such a text reads as its number, and any other text as
  zero.
-/

namespace Fanout
open Text

/-! ## Numbers are visible -/

/-- A character of ASCII behind the percent sign. -/
def Visible (c : Char) : Prop := '%'.toNat < c.toNat ∧ c.toNat < 0x80

instance (c : Char) : Decidable (Visible c) := inferInstanceAs (Decidable (_ ∧ _))

theorem Visible.not_blank {c : Char} (h : Visible c) : isBlank c = false := by
  obtain ⟨h₁, h₂⟩ := h
  have h₁ : 37 < c.toNat := h₁
  simp only [isBlank, Bool.or_eq_false_iff, Bool.and_eq_false_iff, decide_eq_false_iff_not,
    beq_eq_false_iff_ne]
  omega

theorem Visible.ne_percent {c : Char} (h : Visible c) : c ≠ '%' := by
  rintro rfl
  exact Nat.lt_irrefl _ h.1

namespace Reading

theorem visible_of_isDigit {c : Char} (h : isDigit c = true) : Visible c := by
  rw [isDigit, Bool.and_eq_true, decide_eq_true_iff, decide_eq_true_iff] at h
  have h₁ : 48 ≤ c.toNat := h.1
  have h₂ : c.toNat ≤ 57 := h.2
  exact ⟨show 37 < c.toNat by omega, by omega⟩

theorem visible_of_lower {c : Char} (h : Visible (lower c)) : Visible c := by
  unfold lower at h
  split_ifs at h with hcase
  · rw [Bool.and_eq_true, decide_eq_true_iff, decide_eq_true_iff] at hcase
    have h₁ : 65 ≤ c.toNat := hcase.1
    have h₂ : c.toNat ≤ 90 := hcase.2
    exact ⟨show 37 < c.toNat by omega, by omega⟩
  · exact h

/-- A word that is told apart without regard to case is visible if it is in lower case. -/
theorem visible_of_word {word : String} (hword : (word.toList.all fun c => Visible c) = true) {cs : List Char}
    (h : String.ofList (cs.map lower) = word) : ∀ c ∈ cs, Visible c := by
  subst h
  rw [String.toList_ofList, List.all_eq_true, List.forall_mem_map] at hword
  exact fun c hc => visible_of_lower (of_decide_eq_true (hword c hc))

theorem visible_of_mem_digits {cs : List Char} (h : cs.all isDigit = true) : ∀ c ∈ cs, Visible c :=
  fun c hc => visible_of_isDigit (List.all_eq_true.1 h c hc)

theorem visible_of_exponent? {cs : List Char} {e : Int} (h : exponent? cs = some e) :
    ∀ c ∈ cs, Visible c := by
  cases cs with
  | nil => exact nofun
  | cons mark cs =>
    obtain ⟨hmark, h⟩ := Option.ite_none_left_eq_some.1 h
    obtain ⟨hdigits, -⟩ := Option.ite_none_left_eq_some.1 h
    rw [Bool.and_eq_true, bne_iff_ne, bne_iff_ne, not_and, Decidable.not_not] at hmark
    rw [Bool.or_eq_true, not_or, Bool.not_eq_true', Bool.not_eq_false] at hdigits
    refine List.forall_mem_cons.2 ⟨?_, ?_⟩
    · by_cases he : mark = 'e'
      · exact he ▸ by decide
      · exact hmark he ▸ by decide
    · obtain ⟨-, hdigits⟩ := hdigits
      split at hdigits
      · exact List.forall_mem_cons.2 ⟨by decide, visible_of_mem_digits hdigits⟩
      · exact List.forall_mem_cons.2 ⟨by decide, visible_of_mem_digits hdigits⟩
      · exact visible_of_mem_digits hdigits

theorem visible_of_magnitude? {cs : List Char} {x : Float} (h : magnitude? cs = some x) :
    cs ≠ [] ∧ ∀ c ∈ cs, Visible c := by
  have taken (ds : List Char) : ∀ c ∈ ds.takeWhile isDigit, Visible c := fun c hc =>
    visible_of_isDigit (List.all_eq_true.1 List.all_takeWhile c hc)
  have hcs := List.takeWhile_append_dropWhile (p := isDigit) (l := cs)
  constructor
  · rintro rfl
    cases h
  · simp only [magnitude?] at h
    rw [← hcs, List.forall_mem_append]
    refine ⟨taken cs, ?_⟩
    split at h
    · next rest hrest =>
      obtain ⟨e, he, -⟩ := Option.map_eq_some_iff.1 (Option.ite_none_left_eq_some.1 h).2
      have hplaces := List.takeWhile_append_dropWhile (p := isDigit) (l := rest)
      rw [hrest, List.forall_mem_cons, ← hplaces, List.forall_mem_append]
      exact ⟨by decide, taken rest, visible_of_exponent? he⟩
    · obtain ⟨e, he, -⟩ := Option.map_eq_some_iff.1 (Option.ite_none_left_eq_some.1 h).2
      exact visible_of_exponent? he

theorem visible_of_unsigned? {cs : List Char} {x : Float} (h : unsigned? cs = some x) :
    cs ≠ [] ∧ ∀ c ∈ cs, Visible c := by
  unfold unsigned? at h
  have word {w : String} (hw : w ≠ "") (hvisible : (w.toList.all fun c => Visible c) = true)
      (h : String.ofList (cs.map lower) = w) : cs ≠ [] ∧ ∀ c ∈ cs, Visible c := by
    refine ⟨?_, visible_of_word hvisible h⟩
    rintro rfl
    exact hw h.symm
  simp only [Bool.or_eq_true, beq_iff_eq] at h
  split_ifs at h with hinfinite hnan
  · obtain hinf | hinf := hinfinite
    · exact word (by decide) (by decide) hinf
    · exact word (by decide) (by decide) hinf
  · exact word (by decide) (by decide) hnan
  · exact visible_of_magnitude? h

end Reading

theorem visible_of_floatOfText? {cs : List Char} {x : Float} (h : floatOfText? cs = some x) :
    cs ≠ [] ∧ ∀ c ∈ cs, Visible c := by
  unfold floatOfText? at h
  split at h
  · obtain ⟨y, hy, -⟩ := Option.map_eq_some_iff.1 h
    exact ⟨List.cons_ne_nil _ _, List.forall_mem_cons.2 ⟨by decide, (Reading.visible_of_unsigned? hy).2⟩⟩
  · exact ⟨List.cons_ne_nil _ _, List.forall_mem_cons.2 ⟨by decide, (Reading.visible_of_unsigned? h).2⟩⟩
  · exact Reading.visible_of_unsigned? h

/-! ## Figures -/

/-- The text holds a finite number, percent signs or none behind it, and blanks around both. -/
def SpellsFigure (text : List Char) (x : Float) : Prop :=
  ∃ before number between percents after, text = before ++ (number ++ (between ++ percents) ++ after) ∧
    (∀ c ∈ before, isBlank c = true) ∧ (∀ c ∈ between, isBlank c = true) ∧ (∀ c ∈ percents, c = '%') ∧
    (∀ c ∈ after, isBlank c = true) ∧ floatOfText? number = some x ∧ x.isFinite = true

theorem figureOfText_of_spells {text : List Char} {x : Float} (h : SpellsFigure text x) :
    figureOfText text = x := by
  obtain ⟨before, number, between, percents, after, rfl, hbefore, hbetween, hpercents, hafter, hnumber, hx⟩ := h
  obtain ⟨hne, hvisible⟩ := visible_of_floatOfText? hnumber
  have htrimmed : Trimmed number := trimmed_of_not_blank fun c hc => (hvisible c hc).not_blank
  have hplain : ∀ c ∈ (number ++ between).getLast?, (c == '%') = false := by
    intro c hc
    obtain hc | hc := List.mem_append.1 (List.mem_of_mem_getLast? hc)
    · exact beq_eq_false_iff_ne.2 (hvisible c hc).ne_percent
    · rw [beq_eq_false_iff_ne]
      rintro rfl
      exact absurd (hbetween _ hc) (by decide)
  suffices hcore : trim (dropEndWhile (· == '%') (trim (before ++ (number ++ (between ++ percents) ++ after)))) =
      number by
    rw [figureOfText, hcore, hnumber]
    exact if_pos hx
  have hcut : dropEndWhile (· == '%') (number ++ between) = number ++ between := dropEndWhile_eq_self hplain
  have hend : trim ([] ++ (number ++ between)) = number := htrimmed.trim_append nofun hbetween
  rw [List.nil_append] at hend
  by_cases hnone : percents = []
  · -- The blanks in between are blanks behind the number.
    subst hnone
    have hblank : ∀ c ∈ between ++ after, isBlank c = true := List.forall_mem_append.2 ⟨hbetween, hafter⟩
    have hself : dropEndWhile (· == '%') number = number := dropEndWhile_eq_self fun c hc =>
      beq_eq_false_iff_ne.2 (hvisible c (List.mem_of_mem_getLast? hc)).ne_percent
    rw [List.append_nil, List.append_assoc, htrimmed.trim_append hbefore hblank, hself, htrimmed.trim_eq]
  · have hmarks : Trimmed percents := trimmed_of_not_blank fun c hc => by
      rw [hpercents c hc]
      decide
    have hcore : Trimmed (number ++ (between ++ percents)) := htrimmed.append hmarks hne hnone between
    rw [hcore.trim_append hbefore hafter, ← List.append_assoc,
      dropEndWhile_of_all fun c hc => beq_iff_eq.2 (hpercents c hc), hcut, hend]

/-- A text that holds no such number reads as zero. -/
theorem figureOfText_of_not_spells {text : List Char} (h : ∀ x, ¬ SpellsFigure text x) :
    figureOfText text = 0 := by
  unfold figureOfText
  split
  · next x hx =>
    rw [if_neg]
    intro hfinite
    obtain ⟨before, after, htext, hbefore, hafter⟩ := exists_trim text
    obtain ⟨percents, htrim, hpercents⟩ := exists_dropEndWhile (· == '%') (trim text)
    obtain ⟨before', between, hcore, hbefore', hbetween⟩ := exists_trim (dropEndWhile (· == '%') (trim text))
    refine h x ⟨before ++ before', _, between, percents, after, ?_, ?_, hbetween, ?_, hafter, hx, hfinite⟩
    · generalize trim (dropEndWhile (· == '%') (trim text)) = number at hcore ⊢
      generalize dropEndWhile (· == '%') (trim text) = core at htrim hcore
      generalize trim text = middle at htext htrim
      rw [htext, htrim, hcore]
      simp only [List.append_assoc]
    · rw [List.forall_mem_append]
      exact ⟨hbefore, hbefore'⟩
    · exact fun c hc => eq_of_beq (hpercents c hc)
  · rfl

end Fanout
