import Fanout.Proofs.Insight.LabeledReading

/-!
# The scan for labels

* `openings` : the texts from the first visible character of each line on;
* `found`, `readings` : what the scan finds at the start of a text, and the figures that it gives;
* `Passes` : a part in which no figure begins, and `Labelled.readingsFrom_eq` : none begins within another one;
* `figuresWith_eq` : the figures of a text are those at its openings.
-/

namespace Fanout.Labeled
open Text

/-! ## Beginnings of lines -/

/-- The texts from the first visible character of each line on, where `fresh` says that the first line is blank so
far. -/
def openings : Bool → List Char → List (List Char)
  | _, [] => []
  | fresh, c :: cs =>
    if isBlank c then openings (fresh || c == '\n') cs
    else if fresh then (c :: cs) :: openings false cs
    else openings false cs

/-- The figures at the start of a text. -/
def readings (cs : List Char) : List (Label × Float) := labels.filterMap fun l => (figureAt? l cs).map (l, ·)

/-- The figures at the beginnings of lines. -/
def readingsFrom (fresh : Bool) (cs : List Char) : List (Label × Float) := (openings fresh cs).flatMap readings

theorem openings_false_cons (c : Char) (cs : List Char) : openings false (c :: cs) = openings (c == '\n') cs := by
  rw [openings, Bool.false_or]
  by_cases hc : isBlank c = true
  · rw [if_pos hc]
  · have hfeed : (c == '\n') = false := by
      rw [beq_eq_false_iff_ne]
      rintro rfl
      exact hc (by decide)
    rw [if_neg hc, if_neg Bool.false_ne_true, hfeed]

theorem openings_append_of_blank {gap : List Char} (h : Blank gap) (fresh : Bool) (rest : List Char) :
    ∃ fresh', openings fresh (gap ++ rest) = openings fresh' rest ∧ (fresh = true → fresh' = true) := by
  induction gap generalizing fresh with
  | nil => exact ⟨fresh, rfl, id⟩
  | cons c gap ih =>
    obtain ⟨hc, h⟩ := List.forall_mem_cons.1 h
    obtain ⟨fresh', hfresh', hkept⟩ := ih h (fresh || c == '\n')
    refine ⟨fresh', ?_, fun hfresh => hkept (by simp [hfresh])⟩
    rw [List.cons_append, openings, if_pos hc, hfresh']

/-- Within a line there are no openings. -/
theorem openings_false_append {line : List Char} (h : '\n' ∉ line) (rest : List Char) :
    openings false (line ++ rest) = openings false rest := by
  induction line with
  | nil => rfl
  | cons c line ih =>
    obtain ⟨hc, hline⟩ := of_lineFeed_not_mem h
    rw [List.cons_append, openings_false_cons, hc, ih hline]

theorem lineFeed_not_mem {word : List Char} (h : ∀ c ∈ word, isBlank c = false) : '\n' ∉ word := by
  intro hmem
  exact absurd (h _ hmem) (by decide)

theorem openings_true_cons {c : Char} (hc : isBlank c = false) (cs : List Char) :
    openings true (c :: cs) = (c :: cs) :: openings false (c :: cs) := by
  rw [openings, openings, hc, if_neg Bool.false_ne_true, if_neg Bool.false_ne_true, if_pos rfl,
    if_neg Bool.false_ne_true]

/-! ## One label at most -/

theorem labelled?_append_of_blank {gap : List Char} (h : Blank gap) (l : Label) (cs : List Char) :
    labelled? l (gap ++ cs) = labelled? l cs := by
  unfold labelled?
  rw [List.dropWhile_append_of_pos h]

theorem figureAt?_append_of_blank {gap : List Char} (h : Blank gap) (l : Label) (cs : List Char) :
    figureAt? l (gap ++ cs) = figureAt? l cs := by
  rw [figureAt?, labelled?_append_of_blank h, figureAt?]

theorem readings_append_of_blank {gap : List Char} (h : Blank gap) (cs : List Char) :
    readings (gap ++ cs) = readings cs := by
  simp only [readings, figureAt?_append_of_blank h]

theorem readings_eq_nil {cs : List Char} (h : ∀ l, labelled? l cs = none) : readings cs = [] := by
  refine List.filterMap_eq_nil_iff.2 fun l _ => ?_
  rw [figureAt?, h l]
  rfl

theorem Label.mem_labels (l : Label) : l ∈ labels := by cases l <;> decide

/-- The first word of a label begins with its initial, and its other words with other letters than any initial. -/
theorem Label.exists_words (l : Label) : ∃ w ws letters, l.words = w :: ws ∧ w.toList = l.initial :: letters ∧ ws ≠ [] ∧
    ∀ v ∈ ws, ∀ a ∈ v.toList.head?, ∀ l' ∈ labels, l'.initial ≠ a := by
  have hall : (l.words.tail.all fun v => v.toList.head?.all fun a => labels.all fun l' => l'.initial ≠ a) = true := by
    cases l <;> decide
  have hlater : ∀ v ∈ l.words.tail, ∀ a ∈ v.toList.head?, ∀ l' ∈ labels, l'.initial ≠ a := by
    simpa [Option.all_eq_true] using hall
  cases l <;> exact ⟨_, _, _, rfl, rfl, List.cons_ne_nil _ _, hlater⟩

theorem Spelled.initial {l : Label} {label : List Char} (h : Spelled folds l.words label) :
    ∃ c more, label = c :: more ∧ isBlank c = false ∧ lowerChar c = l.initial := by
  obtain ⟨c, more, rfl, hc⟩ := h.exists_cons l.lettered
  refine ⟨c, more, rfl, hc, lowerChar_of_folds_initial (l := l) ?_⟩
  obtain ⟨w, ws, letters, hwords, hw, -⟩ := l.exists_words
  rw [hwords] at h
  generalize hlabel : c :: more = label at h
  cases h with
  | last hword =>
    rw [hw, ← hlabel] at hword
    exact (List.forall₂_cons.1 hword).1
  | more hword =>
    rw [hw] at hword
    cases hword with
    | cons hfirst _ =>
      cases hlabel
      exact hfirst

/-- No two labels begin at the same place. -/
theorem eq_of_labelled? {l l' : Label} {cs : List Char} (h : (labelled? l cs).isSome = true)
    (h' : (labelled? l' cs).isSome = true) : l = l' := by
  have first {l : Label} (h : (labelled? l cs).isSome = true) :
      ∃ c more, cs.dropWhile isBlank = c :: more ∧ lowerChar c = l.initial := by
    obtain ⟨⟨label, spelling, rest⟩, h⟩ := Option.isSome_iff_exists.1 h
    obtain ⟨n, -, before, between, between', hbefore, hlabel, -, -, -, rfl⟩ := labelled?_eq_some_iff.1 h
    obtain ⟨c, more, rfl, hblank, hc⟩ := hlabel.initial
    exact ⟨c, _, (span_blank hbefore ⟨c, _, rfl, hblank⟩).2, hc⟩
  obtain ⟨c, more, hcs, hc⟩ := first h
  obtain ⟨c', more', hcs', hc'⟩ := first h'
  rw [hcs] at hcs'
  obtain ⟨rfl, -⟩ := List.cons.inj hcs'
  rw [hc] at hc'
  cases l <;> cases l' <;> first | rfl | exact absurd hc' (by decide)

/-- What a scan finds at the start of a text. -/
def found (cs : List Char) : Option (Label × List Char × List Char × List Char) :=
  labels.findSome? fun l => (labelled? l cs).map fun (label, spelling, rest) => (l, label, spelling, rest)

theorem labelled?_of_found {l : Label} {cs label spelling rest : List Char}
    (h : found cs = some (l, label, spelling, rest)) :
    labelled? l cs = some (label, spelling, rest) := by
  obtain ⟨l', -, h⟩ := List.exists_of_findSome?_eq_some h
  obtain ⟨⟨label', spelling', rest'⟩, hl', heq⟩ := Option.map_eq_some_iff.1 h
  cases heq
  exact hl'

theorem labelled?_of_found_eq_none {cs : List Char} (h : found cs = none) (l : Label) : labelled? l cs = none := by
  have hl := List.findSome?_eq_none_iff.1 h l l.mem_labels
  exact Option.map_eq_none_iff.1 hl

theorem readings_of_found {l : Label} {cs label spelling rest : List Char}
    (h : found cs = some (l, label, spelling, rest)) :
    readings cs = if spelledPlainly l label then [(l, figureOfText spelling)] else [] := by
  have hl := labelled?_of_found h
  have hself : figureAt? l cs = if spelledPlainly l label then some (figureOfText spelling) else none := by
    rw [figureAt?, hl]
    rfl
  have hother {l' : Label} (hne : l' ≠ l) : figureAt? l' cs = none := by
    cases hl' : labelled? l' cs with
    | none => rw [figureAt?, hl', Option.bind_none]
    | some found => exact absurd (eq_of_labelled? (by rw [hl']; rfl) (by rw [hl]; rfl)) hne
  have hreadings : readings cs = ((figureAt? l cs).map (l, ·)).toList := by
    cases hl : figureAt? l cs <;> cases l <;> simp [readings, labels, hother, hl]
  rw [hreadings, hself]
  split <;> rfl

/-! ## What a figure takes in -/

/-- No figure begins in the part, whatever stands around it, and the line is not blank behind it. -/
def Passes (part : List Char) : Prop := ∀ fresh rest, readingsFrom fresh (part ++ rest) = readingsFrom false rest

theorem Passes.append {part part' : List Char} (h : Passes part) (h' : Passes part') : Passes (part ++ part') := by
  intro fresh rest
  rw [List.append_assoc, h, h']

theorem Passes.blank {part gap : List Char} (h : Passes part) (hgap : Blank gap) : Passes (gap ++ part) := by
  intro fresh rest
  obtain ⟨fresh', hfresh', -⟩ := openings_append_of_blank hgap fresh (part ++ rest)
  rw [List.append_assoc, readingsFrom, hfresh']
  exact h fresh' rest

theorem readingsFrom_false_append {word : List Char} (h : ∀ c ∈ word, isBlank c = false) (rest : List Char) :
    readingsFrom false (word ++ rest) = readingsFrom false rest := by
  rw [readingsFrom, openings_false_append (lineFeed_not_mem h), readingsFrom]

theorem Passes.word {c : Char} {word : List Char} (h : ∀ d ∈ c :: word, isBlank d = false)
    (hc : ∀ l : Label, folds l.initial c = false) : Passes (c :: word) := by
  intro fresh rest
  have hblank := h c List.mem_cons_self
  cases fresh with
  | false => exact readingsFrom_false_append h rest
  | true =>
    have hnone : readings (c :: (word ++ rest)) = [] := readings_eq_nil fun l => labelled?_eq_none hblank (hc l) _
    rw [List.cons_append, readingsFrom, openings_true_cons hblank, List.flatMap_cons, hnone, List.nil_append]
    exact readingsFrom_false_append h rest

theorem folds_initial_eq_false {a c : Char} (h : folds a c = true) {l : Label} (hne : l.initial ≠ a) :
    folds l.initial c = false := by
  rw [Bool.eq_false_iff]
  intro hl
  have hinitial := lowerChar_of_folds_initial hl
  simp only [folds, Bool.or_eq_true, Bool.and_eq_true, beq_iff_eq] at h
  obtain (h | ⟨-, rfl⟩) | ⟨-, rfl⟩ := h
  · exact hne (hinitial.symm.trans h)
  · cases l <;> exact absurd hinitial (by decide)
  · cases l <;> exact absurd hinitial (by decide)

theorem Spelled.passes {ws : List String} {cs : List Char} (h : Spelled folds ws cs) (letters : Lettered ws)
    (later : ∀ v ∈ ws, ∀ a ∈ v.toList.head?, ∀ l' ∈ labels, l'.initial ≠ a) : Passes cs := by
  have hword {w : String} {word : List Char} (hw : w ∈ ws)
      (hword : List.Forall₂ (fun a c => folds a c = true) w.toList word) : Passes word := by
    have later := later w hw
    have hletters := letters w hw
    obtain ⟨-, hblank⟩ := nonblank_of_forall₂ hletters hword
    generalize w.toList = as at hword hletters later
    cases hword with
    | nil => exact absurd rfl hletters.1
    | cons hc _ => exact .word hblank fun l => folds_initial_eq_false hc (later _ rfl l l.mem_labels)
  induction h with
  | last h => exact hword List.mem_cons_self h
  | more h hgap _ _ ih =>
    refine (hword List.mem_cons_self h).append (.blank ?_ hgap)
    exact ih (fun v hv => letters v (List.mem_cons_of_mem _ hv)) (fun v hv => later v (List.mem_cons_of_mem _ hv))
      fun hw h => hword (List.mem_cons_of_mem _ hw) h

theorem Numeral.passes (n : Numeral) : Passes n.text := by
  obtain ⟨c, more, htext, hblank⟩ : ∃ c more, n.text = c :: more ∧ ∀ l : Label, folds l.initial c = false := by
    obtain ⟨d, digits, hd⟩ := List.exists_cons_of_ne_nil n.whole_ne
    have hdigit := List.all_eq_true.1 n.whole_digits d (by simp [hd])
    obtain hs | hs | hs := n.sign_eq
    · exact ⟨d, digits ++ n.fraction, by rw [text, hs, hd]; rfl, folds_initial_of_isDecimalDigit hdigit⟩
    · exact ⟨'-', n.whole ++ n.fraction, by rw [text, hs]; rfl, fun l => by cases l <;> decide⟩
    · exact ⟨'+', n.whole ++ n.fraction, by rw [text, hs]; rfl, fun l => by cases l <;> decide⟩
  rw [htext]
  exact .word (fun d hd => n.not_blank (htext ▸ hd)) hblank

theorem Labelled.length_lt {reads : Char → Char → Bool} {l : Label} {label rest text : List Char} {n : Numeral}
    (h : Labelled reads l label n rest text) : rest.length < text.length := by
  obtain ⟨before, between, between', -, -, -, -, -, rfl⟩ := h
  simp only [List.length_append, List.length_cons]
  omega

/-- Where a label is read, no other figure begins before the end of its number. -/
theorem Labelled.readingsFrom_eq {l : Label} {label rest text : List Char} {n : Numeral}
    (h : Labelled folds l label n rest text) : readingsFrom true text = readings text ++ readingsFrom false rest := by
  obtain ⟨before, between, between', hbefore, hlabel, hbetween, hbetween', hends, rfl⟩ := h
  have hcolon : Passes [':'] := .word (List.forall_mem_singleton.2 (by decide)) fun l => by cases l <;> decide
  have hvalue : Passes (between ++ ([':'] ++ (between' ++ n.text))) :=
    .blank (hcolon.append (.blank n.passes hbetween')) hbetween
  have hrest : label ++ (between ++ ':' :: (between' ++ (n.text ++ rest))) =
      label ++ ((between ++ ([':'] ++ (between' ++ n.text))) ++ rest) := by
    simp only [List.append_assoc, List.cons_append, List.nil_append]
  rw [hrest, readings_append_of_blank hbefore]
  -- The line of the label is fresh up to the label, and behind its number it is not.
  obtain ⟨fresh, hfresh, hkept⟩ := openings_append_of_blank hbefore true
    (label ++ ((between ++ ([':'] ++ (between' ++ n.text))) ++ rest))
  rw [readingsFrom, hfresh, hkept rfl]
  have hfalse : readingsFrom false (label ++ ((between ++ ([':'] ++ (between' ++ n.text))) ++ rest)) =
      readingsFrom false rest := by
    rw [← hvalue false rest]
    obtain ⟨w, ws, letters, hwords, hw, hws, later⟩ := l.exists_words
    have hlettered := l.lettered
    rw [hwords] at hlabel hlettered
    cases hlabel with
    | last => exact absurd rfl hws
    | more hword hgap hne hspelled =>
      have hblank := (nonblank_of_forall₂ (hlettered _ List.mem_cons_self) hword).2
      have hpasses := hspelled.passes (fun v hv => hlettered v (List.mem_cons_of_mem _ hv)) later
      rw [List.append_assoc, readingsFrom_false_append hblank, (hpasses.blank hgap) false]
  obtain ⟨c, more, hc, hblank, -⟩ := hlabel.initial
  rw [← hfalse, hc, List.cons_append, openings_true_cons hblank, List.flatMap_cons]
  rfl

/-- Where no label is found, it does not matter whether the line is blank so far. -/
theorem readingsFrom_of_labelled?_eq_none {cs : List Char} (h : ∀ l, labelled? l cs = none) :
    readingsFrom true cs = readingsFrom false cs := by
  induction cs with
  | nil => rfl
  | cons c cs ih =>
    by_cases hc : isBlank c = true
    · have hgap : Blank [c] := List.forall_mem_singleton.2 hc
      have hcs (l : Label) : labelled? l cs = none := by
        rw [← labelled?_append_of_blank hgap]
        exact h l
      have htrue : openings true (c :: cs) = openings true cs := if_pos hc
      rw [readingsFrom, htrue, readingsFrom, openings_false_cons]
      cases c == '\n' with
      | true => rfl
      | false => exact ih hcs
    · have hc : isBlank c = false := by simpa using hc
      rw [readingsFrom, openings_true_cons hc, List.flatMap_cons, readings_eq_nil h, List.nil_append, readingsFrom]

theorem figuresWith_true_cons (fuel : Nat) (c : Char) (cs : List Char) :
    figuresWith (fuel + 1) true (c :: cs) =
      match found (c :: cs) with
      | some (l, label, spelling, rest) =>
        let more := figuresWith fuel false rest
        if spelledPlainly l label then (l, figureOfText spelling) :: more else more
      | none => figuresWith fuel (c == '\n') cs := by
  rw [figuresWith]
  rfl

/-- The figures of a text are those at the beginnings of its lines. -/
theorem figuresWith_eq {fuel : Nat} {cs : List Char} (h : cs.length ≤ fuel) (atStart : Bool) :
    figuresWith fuel atStart cs = readingsFrom atStart cs := by
  induction fuel generalizing cs atStart with
  | zero =>
    rw [List.eq_nil_of_length_eq_zero (Nat.le_zero.1 h), figuresWith]
    rfl
  | succ fuel ih =>
    cases cs with
    | nil => rfl
    | cons c cs =>
      have hcs : cs.length ≤ fuel := Nat.le_of_succ_le_succ h
      have hfalse : readingsFrom false (c :: cs) = figuresWith fuel (c == '\n') cs := by
        rw [ih hcs, readingsFrom, openings_false_cons, readingsFrom]
      cases atStart with
      | false => exact hfalse.symm
      | true =>
        rw [figuresWith_true_cons]
        cases hfound : found (c :: cs) with
        | none => rw [readingsFrom_of_labelled?_eq_none (labelled?_of_found_eq_none hfound), hfalse]
        | some result =>
          obtain ⟨l, label, spelling, rest⟩ := result
          obtain ⟨n, rfl, hlabelled⟩ := labelled?_eq_some_iff.1 (labelled?_of_found hfound)
          have hlength : rest.length ≤ fuel := Nat.le_of_lt_succ (hlabelled.length_lt.trans_le h)
          rw [hlabelled.readingsFrom_eq, readings_of_found hfound, ← ih hlength]
          dsimp only
          split <;> rfl

end Fanout.Labeled
