import Fanout.Proofs.Insight.Figures
import Fanout.Proofs.Insight.LabeledFigures
import Fanout.Proofs.Insight.LabeledItems
import Mathlib.Data.List.Forall2

/-!
# Labels with their numbers

* `Spelled` : the letters of some words, with blanks between the words;
* `Labelled` : a text that begins with a label, a colon and a number, and `labelled?_eq_some_iff`;
* `Carries` : the label is in letters of ASCII, and `figureAt?_eq_some_iff`.
-/

namespace Fanout.Labeled
open Text

/-! ## Words -/

/-- The letters of words, where `reads` says what is taken for a letter, and blanks between the words. -/
inductive Spelled (reads : Char → Char → Bool) : List String → List Char → Prop
  | last {w : String} {word : List Char} (hword : List.Forall₂ (fun a c => reads a c = true) w.toList word) :
    Spelled reads [w] word
  | more {w w' : String} {ws : List String} {word gap rest : List Char}
    (hword : List.Forall₂ (fun a c => reads a c = true) w.toList word) (hgap : Blank gap) (hne : gap ≠ [])
    (hrest : Spelled reads (w' :: ws) rest) : Spelled reads (w :: w' :: ws) (word ++ (gap ++ rest))

/-- A letter of ASCII in either case. -/
def plainly (letter c : Char) : Bool := lowerChar c == letter

theorem folds_of_plainly {a c : Char} (h : plainly a c = true) : folds a c = true := by
  rw [plainly] at h
  rw [folds, h]
  rfl

theorem Spelled.folded {ws : List String} {cs : List Char} (h : Spelled plainly ws cs) :
    Spelled folds ws cs := by
  induction h with
  | last hword => exact .last (hword.imp fun _ _ => folds_of_plainly)
  | more hword hgap hne _ ih => exact .more (hword.imp fun _ _ => folds_of_plainly) hgap hne ih

/-- Words of small letters. -/
def Lettered (ws : List String) : Prop := ∀ w ∈ ws, w.toList ≠ [] ∧ ∀ a ∈ w.toList, 'a' ≤ a ∧ a ≤ 'z'

theorem Label.lettered (l : Label) : Lettered l.words := by
  have hall : (l.words.all fun w => w.toList ≠ [] && w.toList.all fun a => 'a' ≤ a && a ≤ 'z') = true := by
    cases l <;> decide
  simpa [Lettered] using hall

theorem not_blank_of_folds {a c : Char} (ha : 'a' ≤ a ∧ a ≤ 'z') (h : folds a c = true) : isBlank c = false := by
  simp only [folds, Bool.or_eq_true, Bool.and_eq_true, beq_iff_eq] at h
  obtain (h | ⟨-, rfl⟩) | ⟨-, rfl⟩ := h
  · obtain ⟨hlow, hhigh⟩ := toNat_of_lowerChar ha h
    exact Visible.not_blank ⟨show 37 < c.toNat by omega, by omega⟩
  · decide
  · decide

theorem nonblank_of_forall₂ {letters word : List Char} (hletters : letters ≠ [] ∧ ∀ a ∈ letters, 'a' ≤ a ∧ a ≤ 'z')
    (h : List.Forall₂ (fun a c => folds a c = true) letters word) : word ≠ [] ∧ ∀ c ∈ word, isBlank c = false := by
  obtain ⟨hne, hletters⟩ := hletters
  refine ⟨?_, ?_⟩
  · rintro rfl
    cases h
    exact hne rfl
  · clear hne
    induction h with
    | nil => exact nofun
    | cons hc _ ih =>
      obtain ⟨ha, hletters⟩ := List.forall_mem_cons.1 hletters
      exact List.forall_mem_cons.2 ⟨not_blank_of_folds ha hc, ih hletters⟩

/-- The first character of a label is no blank. -/
theorem Spelled.exists_cons {ws : List String} {cs : List Char} (h : Spelled folds ws cs)
    (letters : Lettered ws) : ∃ c more, cs = c :: more ∧ isBlank c = false := by
  have start {word : List Char} (hword : word ≠ [] ∧ ∀ c ∈ word, isBlank c = false) :
      ∃ c more, word = c :: more ∧ isBlank c = false := by
    obtain ⟨c, more, rfl⟩ := List.exists_cons_of_ne_nil hword.1
    exact ⟨c, more, rfl, hword.2 c List.mem_cons_self⟩
  cases h with
  | last hword => exact start (nonblank_of_forall₂ (letters _ List.mem_cons_self) hword)
  | more hword =>
    obtain ⟨c, more, rfl, hc⟩ := start (nonblank_of_forall₂ (letters _ List.mem_cons_self) hword)
    exact ⟨c, _, rfl, hc⟩

theorem afterWord?_eq_some_iff {word cs rest : List Char} :
    afterWord? word cs = some rest ↔
      ∃ spelled, List.Forall₂ (fun a c => folds a c = true) word spelled ∧ cs = spelled ++ rest := by
  induction word generalizing cs with
  | nil =>
    rw [afterWord?, Option.some.injEq]
    constructor
    · rintro rfl
      exact ⟨[], .nil, rfl⟩
    · rintro ⟨spelled, hspelled, rfl⟩
      cases hspelled
      rfl
  | cons a word ih =>
    cases cs with
    | nil =>
      rw [afterWord?]
      refine iff_of_false (by simp) ?_
      rintro ⟨spelled, hspelled, hcs⟩
      cases hspelled
      cases hcs
    | cons c cs =>
      rw [afterWord?]
      constructor
      · intro h
        obtain ⟨hc, h⟩ := Option.ite_none_right_eq_some.1 h
        obtain ⟨spelled, hspelled, rfl⟩ := ih.1 h
        exact ⟨c :: spelled, .cons hc hspelled, rfl⟩
      · rintro ⟨spelled, hspelled, hcs⟩
        cases hspelled with
        | cons hc hspelled =>
          cases hcs
          rw [if_pos hc]
          exact ih.2 ⟨_, hspelled, rfl⟩

/-- The blanks before a visible character. -/
theorem span_blank {gap cs : List Char} (hgap : Blank gap) (hcs : ∃ c more, cs = c :: more ∧ isBlank c = false) :
    (gap ++ cs).takeWhile isBlank = gap ∧ (gap ++ cs).dropWhile isBlank = cs := by
  obtain ⟨c, more, rfl, hc⟩ := hcs
  rw [List.takeWhile_append_of_pos hgap, List.dropWhile_append_of_pos hgap, List.takeWhile_cons_of_neg (by simp [hc]),
    List.dropWhile_cons_of_neg (by simp [hc]), List.append_nil]
  exact ⟨rfl, rfl⟩

theorem afterWords?_eq_some_iff {ws : List String} (hne : ws ≠ []) (letters : Lettered ws) {cs rest : List Char} :
    afterWords? ws cs = some rest ↔ ∃ spelled, Spelled folds ws spelled ∧ cs = spelled ++ rest := by
  induction ws generalizing cs with
  | nil => exact absurd rfl hne
  | cons w ws ih =>
    cases ws with
    | nil =>
      rw [afterWords?, afterWord?_eq_some_iff]
      constructor
      · rintro ⟨spelled, hspelled, rfl⟩
        exact ⟨spelled, .last hspelled, rfl⟩
      · rintro ⟨spelled, hspelled, rfl⟩
        cases hspelled with
        | last hword => exact ⟨spelled, hword, rfl⟩
    | cons w' ws =>
      have letters' : Lettered (w' :: ws) := fun v hv => letters v (List.mem_cons_of_mem _ hv)
      have ih := @ih (List.cons_ne_nil _ _) letters'
      rw [afterWords?, Option.bind_eq_some_iff]
      · constructor
        · rintro ⟨tail, htail, h⟩
          obtain ⟨word, hword, rfl⟩ := afterWord?_eq_some_iff.1 htail
          obtain ⟨hgap, h⟩ := Option.ite_none_left_eq_some.1 h
          obtain ⟨spelled, hspelled, hrest⟩ := ih.1 h
          refine ⟨word ++ (tail.takeWhile isBlank ++ spelled), .more hword (blank_takeWhile tail) ?_ hspelled, ?_⟩
          · simpa using hgap
          · rw [List.append_assoc, List.append_assoc, ← hrest, List.takeWhile_append_dropWhile]
        · rintro ⟨spelled, hspelled, rfl⟩
          cases hspelled with
          | @more _ _ _ word gap spelled hword hgap hgapne hspelled =>
            refine ⟨gap ++ (spelled ++ rest), afterWord?_eq_some_iff.2 ⟨word, hword, ?_⟩, ?_⟩
            · simp only [List.append_assoc]
            · obtain ⟨c, more, rfl, hc⟩ := hspelled.exists_cons letters'
              obtain ⟨htake, hdrop⟩ := span_blank hgap ⟨c, more ++ rest, rfl, hc⟩
              rw [List.cons_append, htake, hdrop, if_neg (by simpa using hgapne)]
              exact ih.2 ⟨_, hspelled, rfl⟩
      · simp

/-! ## Plain spelling -/

theorem wordsFrom_append {word : List Char} (h : ∀ c ∈ word, isBlank c = false) (read rest : List Char) :
    wordsFrom read (word ++ rest) = wordsFrom (word.reverse ++ read) rest := by
  induction word generalizing read with
  | nil => rfl
  | cons c word ih =>
    obtain ⟨hc, h⟩ := List.forall_mem_cons.1 h
    rw [List.cons_append, wordsFrom, hc, if_neg Bool.false_ne_true, ih h, List.reverse_cons, List.append_assoc]
    rfl

theorem words_append_of_blank {gap : List Char} (h : Blank gap) (rest : List Char) :
    words (gap ++ rest) = words rest := by
  induction gap with
  | nil => rfl
  | cons c gap ih =>
    obtain ⟨hc, h⟩ := List.forall_mem_cons.1 h
    rw [List.cons_append, words, wordsFrom, if_pos hc]
    exact ih h

/-- A word ends at a blank. -/
theorem words_word {word gap : List Char} (hne : word ≠ []) (h : ∀ c ∈ word, isBlank c = false) (hgap : Blank gap)
    (hgapne : gap ≠ []) (rest : List Char) : words (word ++ (gap ++ rest)) = word :: words rest := by
  obtain ⟨c, gap, rfl⟩ := List.exists_cons_of_ne_nil hgapne
  obtain ⟨hc, hgap⟩ := List.forall_mem_cons.1 hgap
  rw [words, wordsFrom_append h, List.append_nil, List.cons_append, wordsFrom, if_pos hc, if_neg (by simpa using hne),
    List.reverse_reverse]
  exact congrArg (word :: ·) (words_append_of_blank hgap rest)

theorem words_last {word : List Char} (hne : word ≠ []) (h : ∀ c ∈ word, isBlank c = false) : words word = [word] := by
  have hfrom := wordsFrom_append h [] []
  rw [List.append_nil, List.append_nil] at hfrom
  rw [words, hfrom, wordsFrom, if_neg (by simpa using hne), List.reverse_reverse]

theorem lowerAscii_eq_iff {w : String} {word : List Char} :
    String.ofList (lowerAscii word) = w ↔ List.Forall₂ (fun a c => plainly a c = true) w.toList word := by
  rw [← String.toList_inj, String.toList_ofList, lowerAscii]
  generalize w.toList = letters
  simp only [plainly, beq_iff_eq]
  rw [← List.forall₂_eq_eq_eq, List.forall₂_map_left_iff]
  exact ⟨List.Forall₂.flip, List.Forall₂.flip⟩

theorem Spelled.plain {ws : List String} {cs : List Char} (h : Spelled folds ws cs) (letters : Lettered ws)
    (hwords : (words cs).map (fun w => String.ofList (lowerAscii w)) = ws) : Spelled plainly ws cs := by
  induction h with
  | last hword =>
    obtain ⟨hne, hblank⟩ := nonblank_of_forall₂ (letters _ List.mem_cons_self) hword
    rw [words_last hne hblank] at hwords
    exact .last (lowerAscii_eq_iff.1 (List.cons.inj hwords).1)
  | more hword hgap hgapne _ ih =>
    obtain ⟨hne, hblank⟩ := nonblank_of_forall₂ (letters _ List.mem_cons_self) hword
    rw [words_word hne hblank hgap hgapne] at hwords
    obtain ⟨hw, hws⟩ := List.cons.inj hwords
    exact .more (lowerAscii_eq_iff.1 hw) hgap hgapne (ih (fun v hv => letters v (List.mem_cons_of_mem _ hv)) hws)

theorem Spelled.map_words {ws : List String} {cs : List Char} (h : Spelled plainly ws cs) (letters : Lettered ws) :
    (words cs).map (fun w => String.ofList (lowerAscii w)) = ws := by
  induction h with
  | last hword =>
    obtain ⟨hne, hblank⟩ := nonblank_of_forall₂ (letters _ List.mem_cons_self)
      (hword.imp fun _ _ => folds_of_plainly)
    rw [words_last hne hblank, List.map_singleton, lowerAscii_eq_iff.2 hword]
  | more hword hgap hgapne _ ih =>
    obtain ⟨hne, hblank⟩ := nonblank_of_forall₂ (letters _ List.mem_cons_self)
      (hword.imp fun _ _ => folds_of_plainly)
    rw [words_word hne hblank hgap hgapne, List.map_cons, lowerAscii_eq_iff.2 hword,
      ih fun v hv => letters v (List.mem_cons_of_mem _ hv)]

/-- A label that is found is spelled in ASCII just if its words are those of the label in some case. -/
theorem spelledPlainly_iff {l : Label} {label : List Char} (h : Spelled folds l.words label) :
    spelledPlainly l label = true ↔ Spelled plainly l.words label := by
  rw [spelledPlainly, beq_iff_eq]
  exact ⟨h.plain l.lettered, fun h => h.map_words l.lettered⟩

/-! ## Labels and numbers -/

/-- The text begins with a label, a colon and a number, with blanks before them and between them, and the rest is what
follows the number. -/
def Labelled (reads : Char → Char → Bool) (l : Label) (label : List Char) (n : Numeral) (rest text : List Char) :
    Prop :=
  ∃ before between between', Blank before ∧ Spelled reads l.words label ∧ Blank between ∧ Blank between' ∧ n.Ends rest ∧
    text = before ++ (label ++ (between ++ ':' :: (between' ++ (n.text ++ rest))))

theorem Label.words_ne (l : Label) : l.words ≠ [] := by cases l <;> exact List.cons_ne_nil _ _

theorem exists_labelled {l : Label} {cs label spelling rest : List Char}
    (h : labelled? l cs = some (label, spelling, rest)) :
    ∃ n : Numeral, n.text = spelling ∧ Labelled folds l label n rest cs := by
  simp only [labelled?, Option.bind_eq_bind, Option.bind_eq_some_iff] at h
  obtain ⟨tail, htail, h⟩ := h
  obtain ⟨label', hlabel, hstart⟩ := (afterWords?_eq_some_iff l.words_ne l.lettered).1 htail
  split at h
  · next r hr =>
    obtain ⟨⟨spelling', rest'⟩, hnumber, h⟩ := Option.bind_eq_some_iff.1 h
    cases h
    obtain ⟨n, rfl, hcs, hends⟩ := number?_eq_some_iff.1 hnumber
    have htake : (label' ++ tail).take ((label' ++ tail).length - tail.length) = label' := by simp
    rw [hstart, htake]
    refine ⟨n, rfl, cs.takeWhile isBlank, tail.takeWhile isBlank, r.takeWhile isBlank, blank_takeWhile _, hlabel,
      blank_takeWhile _, blank_takeWhile _, hends, ?_⟩
    rw [← hcs, List.takeWhile_append_dropWhile, ← hr, List.takeWhile_append_dropWhile, ← hstart,
      List.takeWhile_append_dropWhile]
  · cases h

theorem Labelled.labelled?_eq {l : Label} {label rest text : List Char} {n : Numeral}
    (h : Labelled folds l label n rest text) : labelled? l text = some (label, n.text, rest) := by
  obtain ⟨before, between, between', hbefore, hlabel, hbetween, hbetween', hends, rfl⟩ := h
  obtain ⟨c, more, hc, hcblank⟩ := hlabel.exists_cons l.lettered
  obtain ⟨d, digits, hd, hdblank⟩ := n.tidy.head_eq
  have hstart : (before ++ (label ++ (between ++ ':' :: (between' ++ (n.text ++ rest))))).dropWhile isBlank = _ :=
    (span_blank hbefore ⟨c, _, by rw [hc]; rfl, hcblank⟩).2
  have htail : (between ++ ':' :: (between' ++ (n.text ++ rest))).dropWhile isBlank = _ :=
    (span_blank hbetween ⟨':', _, rfl, by decide⟩).2
  have hnumber : (between' ++ (n.text ++ rest)).dropWhile isBlank = _ :=
    (span_blank hbetween' ⟨d, _, by rw [hd]; rfl, hdblank⟩).2
  have hafter := (afterWords?_eq_some_iff l.words_ne l.lettered).2
    ⟨label, hlabel, (rfl : label ++ (between ++ ':' :: (between' ++ (n.text ++ rest))) = _)⟩
  simp only [labelled?, Option.bind_eq_bind, hstart, hafter, Option.bind_some, htail, hnumber,
    number?_eq_some_iff.2 ⟨n, rfl, rfl, hends⟩]
  simp

theorem labelled?_eq_some_iff {l : Label} {cs label spelling rest : List Char} :
    labelled? l cs = some (label, spelling, rest) ↔
      ∃ n : Numeral, n.text = spelling ∧ Labelled folds l label n rest cs := by
  constructor
  · exact exists_labelled
  · rintro ⟨n, rfl, h⟩
    exact h.labelled?_eq

/-- On its own, the text carries a label in ASCII, a colon and a number. -/
def Carries (l : Label) (n : Numeral) (text : List Char) : Prop :=
  ∃ label rest, Labelled plainly l label n rest text

/-- The figure that is read from the start of a text. -/
def figureAt? (l : Label) (cs : List Char) : Option Float :=
  (labelled? l cs).bind fun (label, spelling, _) =>
    if spelledPlainly l label then some (figureOfText spelling) else none

theorem figureAt?_eq_some_iff {l : Label} {cs : List Char} {x : Float} :
    figureAt? l cs = some x ↔ ∃ n, Carries l n cs ∧ figureOfText n.text = x := by
  rw [figureAt?, Option.bind_eq_some_iff]
  constructor
  · rintro ⟨⟨label, spelling, rest⟩, h, hplain⟩
    obtain ⟨n, rfl, before, between, between', hbefore, hlabel, hrest⟩ := labelled?_eq_some_iff.1 h
    obtain ⟨hplain, hx⟩ := Option.ite_none_right_eq_some.1 hplain
    exact ⟨n, ⟨label, rest, before, between, between', hbefore, (spelledPlainly_iff hlabel).1 hplain, hrest⟩,
      Option.some.inj hx⟩
  · rintro ⟨n, ⟨label, rest, before, between, between', hbefore, hlabel, hrest⟩, rfl⟩
    have hfolds := hlabel.folded
    refine ⟨⟨label, n.text, rest⟩,
      labelled?_eq_some_iff.2 ⟨n, rfl, before, between, between', hbefore, hfolds, hrest⟩, ?_⟩
    exact if_pos ((spelledPlainly_iff hfolds).2 hlabel)

theorem figureAt?_eq_none_iff {l : Label} {cs : List Char} : figureAt? l cs = none ↔ ∀ n, ¬Carries l n cs := by
  rw [Option.eq_none_iff_forall_ne_some]
  constructor
  · intro h n hn
    exact h _ (figureAt?_eq_some_iff.2 ⟨n, hn, rfl⟩)
  · intro h x hx
    obtain ⟨n, hn, -⟩ := figureAt?_eq_some_iff.1 hx
    exact h n hn

end Fanout.Labeled
