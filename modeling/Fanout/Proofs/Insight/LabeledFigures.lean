import Fanout.Insight.LabeledReply
import Fanout.Proofs.Text.Lines
import Mathlib.Data.List.TakeWhile
import Mathlib.Tactic.SplitIfs

/-!
# Figures behind labels

* `Numeral` : a decimal number as it is written;
* `Label.line` : the line of a label with its figure;
* `number?_eq_some_iff` : the number that is read from a text is the longest one that the text begins with;
* `figuresWith_label` : a figure is read from the line of its label;
* `figuresWith_unlabelled` : no figure is read from lines on which no label starts.
-/

namespace Fanout.Labeled
open Text

/-! ## What is written -/

/-- A decimal number as it is written: a sign or none, digits, and a fraction or none. -/
structure Numeral where
  sign : List Char
  whole : List Char
  fraction : List Char
  sign_eq : sign = [] ∨ sign = ['-'] ∨ sign = ['+']
  whole_ne : whole ≠ []
  whole_digits : whole.all isDecimalDigit = true
  fraction_eq : fraction = [] ∨
    ∃ places, places ≠ [] ∧ places.all isDecimalDigit = true ∧ fraction = '.' :: places

def Numeral.text (n : Numeral) : List Char := n.sign ++ (n.whole ++ n.fraction)

def Label.title : Label → String
  | .loadTimeImpact => "Load Time Impact"
  | .databaseEfficiency => "Database Efficiency"
  | .networkOptimization => "Network Optimization"
  | .potentialImprovement => "Potential Improvement"

/-- The line of a label with its figure. -/
def Label.line (l : Label) (n : Numeral) : List Char := l.title.toList ++ (": ".toList ++ n.text)

/-! ## Digits -/

/-- No range of digits holds a blank. -/
theorem isBlank_of_isDecimalDigit {c : Char} (h : isDecimalDigit c = true) : isBlank c = false := by
  obtain ⟨⟨first, last⟩, hr, hc⟩ := List.any_eq_true.1 h
  have apart : ∀ r ∈ decimalDigitRanges, 32 < r.1 ∧ (r.2 < 0x85 ∨ 0xA0 < r.1) ∧
      (r.2 < 0x1680 ∨ 0x1680 < r.1) ∧ (r.2 < 0x2000 ∨ 0x3000 < r.1) := by
    decide
  obtain ⟨h₁, h₂, h₃, h₄⟩ := apart _ hr
  simp only [Bool.and_eq_true, decide_eq_true_eq] at hc
  simp only [isBlank, Bool.or_eq_false_iff, Bool.and_eq_false_iff, decide_eq_false_iff_not,
    beq_eq_false_iff_ne]
  omega

theorem isDecimalDigit_of_isDigit {c : Char} (h : c.isDigit = true) : isDecimalDigit c = true := by
  refine List.any_eq_true.2 ⟨(0x30, 0x39), by decide, ?_⟩
  rw [Bool.and_eq_true, decide_eq_true_iff, decide_eq_true_iff]
  exact Char.isDigit_iff_toNat.1 h

theorem isDecimalDigit_of_mem_toDigits {number : Nat} {c : Char} (h : c ∈ Nat.toDigits 10 number) :
    isDecimalDigit c = true :=
  isDecimalDigit_of_isDigit (Nat.isDigit_of_mem_toDigits (by decide) (by decide) h)

theorem takeWhile_digits {ds : List Char} (h : ds.all isDecimalDigit = true) {c : Char}
    (hc : isDecimalDigit c = false) (rest : List Char) :
    (ds ++ c :: rest).takeWhile isDecimalDigit = ds ∧
      (ds ++ c :: rest).dropWhile isDecimalDigit = c :: rest := by
  have h := List.all_eq_true.1 h
  rw [List.takeWhile_append_of_pos h, List.dropWhile_append_of_pos h,
    List.takeWhile_cons_of_neg (by simp [hc]), List.dropWhile_cons_of_neg (by simp [hc]),
    List.append_nil]
  exact ⟨rfl, rfl⟩

namespace Numeral

theorem not_blank (n : Numeral) {c : Char} (h : c ∈ n.text) : isBlank c = false := by
  rw [text, List.mem_append, List.mem_append] at h
  obtain h | h | h := h
  · obtain hs | hs | hs := n.sign_eq
    · rw [hs] at h
      cases h
    · rw [hs, List.mem_singleton] at h
      subst h
      decide
    · rw [hs, List.mem_singleton] at h
      subst h
      decide
  · exact isBlank_of_isDecimalDigit (List.all_eq_true.1 n.whole_digits c h)
  · obtain hf | ⟨places, -, hp, hf⟩ := n.fraction_eq
    · rw [hf] at h
      cases h
    · rw [hf, List.mem_cons] at h
      obtain rfl | h := h
      · decide
      · exact isBlank_of_isDecimalDigit (List.all_eq_true.1 hp c h)

theorem tidy (n : Numeral) : Tidy n.text := by
  refine Tidy.of_not_blank ?_ fun c => n.not_blank
  simp [text, n.whole_ne]

end Numeral

/-! ## Numbers -/

/-- A numeral ends where the rest begins, and does not go on in it. -/
structure Numeral.Ends (n : Numeral) (rest : List Char) : Prop where
  digit : ∀ c ∈ rest.head?, isDecimalDigit c = false
  point : n.fraction = [] → ∀ d more, rest = '.' :: d :: more → isDecimalDigit d = false

theorem span_digits {ds rest : List Char} (hds : ds.all isDecimalDigit = true)
    (hrest : ∀ c ∈ rest.head?, isDecimalDigit c = false) :
    (ds ++ rest).takeWhile isDecimalDigit = ds ∧ (ds ++ rest).dropWhile isDecimalDigit = rest := by
  cases rest with
  | nil =>
    rw [List.append_nil]
    exact ⟨List.takeWhile_eq_self_iff.2 (List.all_eq_true.1 hds), List.dropWhile_eq_nil_iff.2 (List.all_eq_true.1 hds)⟩
  | cons c rest => exact takeWhile_digits hds (hrest c rfl) rest

theorem head?_dropWhile_digits (cs : List Char) :
    ∀ c ∈ (cs.dropWhile isDecimalDigit).head?, isDecimalDigit c = false := by
  intro c hc
  have hnot := List.head?_dropWhile_not isDecimalDigit cs
  rw [Option.mem_def.1 hc] at hnot
  simpa using hnot

theorem exists_numeral_of_unsigned? {sign cs spelling rest : List Char}
    (hsign : sign = [] ∨ sign = ['-'] ∨ sign = ['+']) (h : unsigned? sign cs = some (spelling, rest)) :
    ∃ n : Numeral, n.sign = sign ∧ n.text = spelling ∧ cs = n.whole ++ (n.fraction ++ rest) ∧ n.Ends rest := by
  have hcs := List.takeWhile_append_dropWhile (p := isDecimalDigit) (l := cs)
  have hdigits : (cs.takeWhile isDecimalDigit).all isDecimalDigit = true := List.all_takeWhile
  have hhead := head?_dropWhile_digits cs
  unfold unsigned? at h
  dsimp only at h
  generalize cs.takeWhile isDecimalDigit = whole at *
  generalize cs.dropWhile isDecimalDigit = tail at *
  split_ifs at h with hempty
  have hwhole : whole ≠ [] := by simpa using hempty
  split at h
  · next r =>
    have hr := List.takeWhile_append_dropWhile (p := isDecimalDigit) (l := r)
    split_ifs at h with hplaces
    · cases h
      refine ⟨⟨sign, whole, [], hsign, hwhole, hdigits, .inl rfl⟩, rfl, ?_, hcs.symm, hhead, ?_⟩
      · exact congrArg (sign ++ ·) (List.append_nil whole)
      · rintro - d more heq
        cases heq
        simpa [List.takeWhile_cons] using hplaces
    · cases h
      have hplaces : r.takeWhile isDecimalDigit ≠ [] := by simpa using hplaces
      refine ⟨⟨sign, whole, '.' :: r.takeWhile isDecimalDigit, hsign, hwhole, hdigits,
        .inr ⟨_, hplaces, List.all_takeWhile, rfl⟩⟩, rfl, ?_, ?_, head?_dropWhile_digits r, nofun⟩
      · exact (List.append_assoc ..).symm
      · rw [List.cons_append, hr, hcs]
  · next hpoint =>
    cases h
    refine ⟨⟨sign, whole, [], hsign, hwhole, hdigits, .inl rfl⟩, rfl, ?_, hcs.symm, hhead, ?_⟩
    · exact congrArg (sign ++ ·) (List.append_nil whole)
    · intro _ d more heq
      exact absurd heq (hpoint _)

theorem Numeral.unsigned?_eq (n : Numeral) {rest : List Char} (h : n.Ends rest) :
    unsigned? n.sign (n.whole ++ (n.fraction ++ rest)) = some (n.text, rest) := by
  unfold unsigned?
  obtain hf | ⟨places, hne, hp, hf⟩ := n.fraction_eq
  · obtain ⟨htake, hdrop⟩ := span_digits n.whole_digits h.digit
    rw [hf, List.nil_append, htake, hdrop]
    simp only [List.isEmpty_iff, n.whole_ne, if_false]
    have htext : n.sign ++ n.whole = n.text := by rw [text, hf, List.append_nil]
    rw [htext]
    split
    · next r =>
      have hnone : r.takeWhile isDecimalDigit = [] := by
        cases r with
        | nil => rfl
        | cons d more => exact List.takeWhile_cons_of_neg (by simp [h.point hf d more rfl])
      rw [hnone]
      rfl
    · rfl
  · obtain ⟨htake, hdrop⟩ := takeWhile_digits n.whole_digits (c := '.') (by decide) (places ++ rest)
    obtain ⟨htake', hdrop'⟩ := span_digits hp h.digit
    rw [hf, List.cons_append, htake, hdrop]
    simp only [htake', hdrop', List.isEmpty_iff, n.whole_ne, hne, if_false]
    rw [text, hf, List.append_assoc]

/-- The number that is read from a text is the longest one that the text begins with. -/
theorem number?_eq_some_iff {cs spelling rest : List Char} :
    number? cs = some (spelling, rest) ↔ ∃ n : Numeral, n.text = spelling ∧ cs = n.text ++ rest ∧ n.Ends rest := by
  constructor
  · intro h
    unfold number? at h
    split at h
    all_goals
      obtain ⟨n, hsign, rfl, hcs, hends⟩ := exists_numeral_of_unsigned? (by simp) h
      refine ⟨n, rfl, ?_, hends⟩
      rw [hcs, Numeral.text, hsign]
      simp only [List.cons_append, List.nil_append, List.append_assoc]
  · rintro ⟨n, rfl, rfl, hends⟩
    have h := n.unsigned?_eq hends
    have hcs : n.text ++ rest = n.sign ++ (n.whole ++ (n.fraction ++ rest)) := by
      simp only [Numeral.text, List.append_assoc]
    rw [hcs]
    obtain hs | hs | hs := n.sign_eq
    · obtain ⟨c, whole, hw⟩ := List.exists_cons_of_ne_nil n.whole_ne
      have hc := List.all_eq_true.1 n.whole_digits c (by simp [hw])
      rw [hs, hw] at h
      rw [hs, hw]
      unfold number?
      split
      · next heq =>
        cases heq
        exact absurd hc (by decide)
      · next heq =>
        cases heq
        exact absurd hc (by decide)
      · exact h
    · rw [hs] at h ⊢
      exact h
    · rw [hs] at h ⊢
      exact h

/-- A number is read up to the end of its line. -/
theorem Numeral.number?_text (n : Numeral) (rest : List Char) :
    number? (n.text ++ '\n' :: rest) = some (n.text, '\n' :: rest) := by
  refine number?_eq_some_iff.2 ⟨n, rfl, rfl, ?_, fun _ => nofun⟩
  intro c hc
  cases hc
  decide

/-! ## Figures -/

/-- The letter that a label starts with. -/
def Label.initial : Label → Char
  | .loadTimeImpact => 'l'
  | .databaseEfficiency => 'd'
  | .networkOptimization => 'n'
  | .potentialImprovement => 'p'

theorem labelled?_eq_none {l : Label} {c : Char} (hb : isBlank c = false)
    (hc : folds l.initial c = false) (cs : List Char) : labelled? l (c :: cs) = none := by
  obtain ⟨w, w', ws, letters, hwords, hw⟩ :
      ∃ w w' ws letters, l.words = w :: w' :: ws ∧ w.toList = l.initial :: letters := by
    cases l <;> exact ⟨_, _, _, _, rfl, rfl⟩
  have h : afterWords? l.words (c :: cs) = none := by
    rw [hwords, afterWords?, hw, afterWord?, hc]
    · rfl
    · simp
  have hstart : (c :: cs).dropWhile isBlank = c :: cs := List.dropWhile_cons_of_neg (by simp [hb])
  simp only [labelled?, hstart, h, Option.bind_eq_bind, Option.bind_none]

theorem lowerChar_of_folds_initial {l : Label} {c : Char} (h : folds l.initial c = true) : lowerChar c = l.initial := by
  simp only [folds, Bool.or_eq_true, Bool.and_eq_true, beq_iff_eq] at h
  obtain (h | ⟨hl, -⟩) | ⟨hl, -⟩ := h
  · exact h
  · cases l <;> exact absurd hl (by decide)
  · cases l <;> exact absurd hl (by decide)

/-- A small letter of ASCII in either case. -/
theorem toNat_of_lowerChar {a c : Char} (ha : 'a' ≤ a ∧ a ≤ 'z') (h : lowerChar c = a) :
    65 ≤ c.toNat ∧ c.toNat ≤ 122 := by
  unfold lowerChar at h
  split_ifs at h with hupper
  · simp only [Bool.and_eq_true, decide_eq_true_iff] at hupper
    have hlow : 65 ≤ c.toNat := hupper.1
    have hhigh : c.toNat ≤ 90 := hupper.2
    omega
  · subst h
    have hlow : 97 ≤ c.toNat := ha.1
    have hhigh : c.toNat ≤ 122 := ha.2
    omega

theorem folds_initial_of_isDecimalDigit {c : Char} (h : isDecimalDigit c = true) (l : Label) :
    folds l.initial c = false := by
  rw [Bool.eq_false_iff]
  intro hl
  have hinitial : 'a' ≤ l.initial ∧ l.initial ≤ 'z' := by cases l <;> decide
  obtain ⟨hlow, hhigh⟩ := toNat_of_lowerChar hinitial (lowerChar_of_folds_initial hl)
  obtain ⟨⟨first, last⟩, hr, hc⟩ := List.any_eq_true.1 h
  have apart : ∀ r ∈ decimalDigitRanges, r.2 < 65 ∨ 122 < r.1 := by decide
  have hapart := apart _ hr
  simp only [Bool.and_eq_true, decide_eq_true_eq] at hc
  omega

theorem folds_initial_of_isDigit {d : Char} (h : d.isDigit = true) (l : Label) : folds l.initial d = false :=
  folds_initial_of_isDecimalDigit (isDecimalDigit_of_isDigit h) l

theorem Label.title_tidy (l : Label) : Tidy l.title.toList := by
  cases l <;> exact ⟨by decide, by decide, by decide⟩

/-- The words of a label are read from its title. -/
theorem afterWords?_title (l : Label) (rest : List Char) :
    afterWords? l.words (l.title.toList ++ ':' :: rest) = some (':' :: rest) := by
  cases l <;> rfl

theorem spelledPlainly_title (l : Label) : spelledPlainly l l.title.toList = true := by
  cases l <;> decide

theorem labelled?_line (l : Label) (n : Numeral) (rest : List Char) :
    labelled? l (l.line n ++ '\n' :: rest) = some (l.title.toList, n.text, '\n' :: rest) := by
  have hline : l.line n ++ '\n' :: rest =
      l.title.toList ++ ':' :: ' ' :: (n.text ++ '\n' :: rest) := by
    simp [Label.line]
  have hblank : (' ' :: (n.text ++ '\n' :: rest)).dropWhile isBlank = n.text ++ '\n' :: rest := by
    rw [List.dropWhile_cons_of_pos (by decide), n.tidy.append_dropWhile]
  have hcolon : isBlank ':' = false := by decide
  simp only [labelled?, hline, l.title_tidy.append_dropWhile, afterWords?_title]
  simp [hblank, n.number?_text, hcolon]

/-- Only a label itself is found on its line. -/
theorem findSome?_line (l : Label) (n : Numeral) (rest : List Char) :
    labels.findSome? (fun l' =>
        (labelled? l' (l.line n ++ '\n' :: rest)).map fun (s, v, more) => (l', s, v, more)) =
      some (l, l.title.toList, n.text, '\n' :: rest) := by
  have other {l' : Label} (h : l' ≠ l) : labelled? l' (l.line n ++ '\n' :: rest) = none := by
    cases l <;> cases l' <;>
      first
        | exact absurd rfl h
        | exact labelled?_eq_none (by decide) (by decide) _
  have hl := labelled?_line l n rest
  cases l <;> simp [labels, other, hl]

theorem of_lineFeed_not_mem {c : Char} {l : List Char} (h : '\n' ∉ c :: l) :
    (c == '\n') = false ∧ '\n' ∉ l := by
  rw [List.mem_cons, not_or] at h
  refine ⟨?_, h.2⟩
  rw [beq_eq_false_iff_ne]
  exact fun heq => h.1 heq.symm

/-- Within a line no label is looked for. -/
theorem figuresWith_skip {l : List Char} (h : '\n' ∉ l) (fuel : Nat) (rest : List Char) :
    figuresWith fuel false (l ++ '\n' :: rest) = figuresWith (fuel - (l.length + 1)) true rest := by
  induction l generalizing fuel with
  | nil =>
    cases fuel with
    | zero => rfl
    | succ fuel => simp [figuresWith]
  | cons c l ih =>
    obtain ⟨hc, hl⟩ := of_lineFeed_not_mem h
    cases fuel with
    | zero => simp [figuresWith]
    | succ fuel =>
      rw [List.cons_append, figuresWith]
      simp only [Bool.false_eq_true, if_false, hc]
      rw [ih hl, List.length_cons, Nat.add_sub_add_right]

theorem figuresWith_within {l : List Char} (h : '\n' ∉ l) (fuel : Nat) :
    figuresWith fuel false l = [] := by
  induction l generalizing fuel with
  | nil => cases fuel <;> rfl
  | cons c l ih =>
    obtain ⟨hc, hl⟩ := of_lineFeed_not_mem h
    cases fuel with
    | zero => rfl
    | succ fuel =>
      rw [figuresWith]
      simp only [Bool.false_eq_true, if_false, hc]
      exact ih hl fuel

/-- The figure of a label is read from its line. -/
theorem figuresWith_label (l : Label) (n : Numeral) (fuel : Nat) (rest : List Char) :
    figuresWith (fuel + 2) true (l.line n ++ '\n' :: rest) =
      (l, figureOfText n.text) :: figuresWith fuel true rest := by
  have hfound := findSome?_line l n rest
  obtain ⟨c, cs, hline, -⟩ := l.title_tidy.head_eq
  have hcons : l.line n ++ '\n' :: rest = c :: (cs ++ (": ".toList ++ n.text) ++ '\n' :: rest) := by
    simp [Label.line, hline]
  rw [hcons] at hfound ⊢
  rw [figuresWith]
  simp only [if_true, hfound, spelledPlainly_title]
  rw [show figuresWith (fuel + 1) false ('\n' :: rest) = figuresWith fuel true rest from
    figuresWith_skip (l := []) (by simp) (fuel + 1) rest]

theorem figuresWith_labels (figure : Label → Numeral) (ls : List Label) (fuel : Nat)
    (rest : List Char) :
    figuresWith (fuel + 2 * ls.length) true
        (ls.flatMap (fun l => l.line (figure l) ++ ['\n']) ++ rest) =
      ls.map (fun l => (l, figureOfText (figure l).text)) ++ figuresWith fuel true rest := by
  induction ls with
  | nil => rfl
  | cons l ls ih =>
    rw [List.flatMap_cons, List.append_assoc, List.append_assoc, List.singleton_append,
      List.length_cons, Nat.mul_succ, ← Nat.add_assoc, figuresWith_label, ih]
    rfl

theorem length_labels_le (figure : Label → Numeral) (ls : List Label) :
    2 * ls.length ≤ (ls.flatMap fun l => l.line (figure l) ++ ['\n']).length := by
  induction ls with
  | nil => exact Nat.le_refl 0
  | cons l ls ih =>
    rw [List.flatMap_cons, List.length_append, List.length_append, Label.line, List.length_append,
      List.length_append, List.length_cons]
    have hcolon : ": ".toList.length = 2 := rfl
    omega

/-- A line on which no label starts. -/
def Unlabelled (line : List Char) : Prop :=
  '\n' ∉ line ∧ ∃ c cs, line = c :: cs ∧ isBlank c = false ∧ ∀ l : Label, folds l.initial c = false

/-- At the start of a line on which no label starts none is found. -/
theorem figuresWith_start {c : Char} {cs : List Char} (h : Unlabelled (c :: cs)) (fuel : Nat)
    (rest : List Char) :
    figuresWith (fuel + 1) true (c :: cs ++ rest) = figuresWith fuel false (cs ++ rest) := by
  obtain ⟨hline, _, _, heq, hb, hc⟩ := h
  cases heq
  have hfound : (labels.findSome? fun l =>
      (labelled? l (c :: (cs ++ rest))).map fun (s, v, more) => (l, s, v, more)) = none := by
    rw [List.findSome?_eq_none_iff]
    intro l _
    rw [labelled?_eq_none hb (hc l)]
    rfl
  rw [List.cons_append, figuresWith]
  simp only [if_true, hfound, (of_lineFeed_not_mem hline).1]

/-- No figure is read from lines on which no label starts. -/
theorem figuresWith_unlabelled (ended : Bool) {ls : List (List Char)} (h : ∀ l ∈ ls, Unlabelled l)
    (fuel : Nat) : figuresWith fuel true (joined ended ls) = [] := by
  induction ls generalizing fuel with
  | nil => cases fuel <;> rfl
  | cons l ls ih =>
    have hl := h l List.mem_cons_self
    have ih := ih fun l' hl' => h l' (List.mem_cons_of_mem _ hl')
    obtain ⟨hline, c, cs, rfl, -⟩ := id hl
    have hcs := (of_lineFeed_not_mem hline).2
    cases fuel with
    | zero => simp [figuresWith]
    | succ fuel =>
      -- The line is passed over, and so is what follows it, if anything does.
      have hpass : figuresWith (fuel + 1) true (c :: cs ++ '\n' :: joined ended ls) = [] := by
        rw [figuresWith_start hl, figuresWith_skip hcs]
        exact ih _
      by_cases hls : ls = []
      · subst hls
        cases ended with
        | true => exact hpass
        | false =>
          have hstart := figuresWith_start hl fuel []
          rw [List.append_nil, List.append_nil] at hstart
          rw [joined, if_neg (by decide), hstart]
          exact figuresWith_within hcs fuel
      · rw [joined_cons ended _ hls]
        exact hpass

end Fanout.Labeled
