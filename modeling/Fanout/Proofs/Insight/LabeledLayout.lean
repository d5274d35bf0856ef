import Fanout.Proofs.Insight.LabeledFigures

/-!
# The labeled layout

* `Entry` : an issue that a line of the list can hold;
* `layout` : four figures and some issues, laid out as the prompt asks for it;
* `ofLine?_line`, `issue_item` : an entry is read from its line;
* `ofLabeledReply_layout` : all that is laid out is read back.
-/

namespace Fanout.Labeled
open Text

/-! ## What is laid out -/

/-- An issue that a line of the list can hold. -/
structure Entry where
  severity : Severity
  title : String
  description : String
  title_tidy : Tidy title.toList
  title_unmarked : ¬ " - ".toList <:+: title.toList
  title_end : ¬ " -".toList <:+ title.toList
  description_tidy : Tidy description.toList

/-- The issue itself, with nothing said of where it is or what may be done about it. -/
def Entry.issue (e : Entry) : Issue :=
  { severity := e.severity, title := e.title, description := e.description }

def Entry.body (e : Entry) : List Char :=
  e.title.toList ++ (" - ".toList ++ e.description.toList)

/-- The line of an entry in the list. -/
def Entry.line (number : Nat) (e : Entry) : List Char :=
  Nat.toDigits 10 number ++ (". [".toList ++ (e.severity.name.toList ++ ("] ".toList ++ e.body)))

/-- The heading of the list and its lines, counted from `first`. -/
def entryLines (first : Nat) : List Entry → List (List Char)
  | [] => []
  | e :: es => e.line first :: entryLines (first + 1) es

def layoutLines (figure : Label → Numeral) (entries : List Entry) : List (List Char) :=
  labels.map (fun l => l.line (figure l)) ++ "Issues:".toList :: entryLines 1 entries

/-- Figures and issues as a reply, with a line feed behind the last line or without. -/
def layout (figure : Label → Numeral) (entries : List Entry) (ended : Bool) : String :=
  String.ofList (joined ended (layoutLines figure entries))

/-! ## Entries -/

theorem Entry.body_tidy (e : Entry) : Tidy e.body :=
  e.title_tidy.append e.description_tidy (by decide)

theorem toDigits_tidy (number : Nat) : Tidy (Nat.toDigits 10 number) :=
  Tidy.of_not_blank Nat.toDigits_ne_nil fun _ hc =>
    isBlank_of_isDecimalDigit (isDecimalDigit_of_mem_toDigits hc)

namespace Entry

theorem line_eq (number : Nat) (e : Entry) :
    e.line number =
      Nat.toDigits 10 number ++ '.' :: ' ' :: '[' :: (e.severity.name.toList ++ ']' :: ' ' :: e.body) := by
  simp [line]

theorem line_tidy (number : Nat) (e : Entry) : Tidy (e.line number) := by
  have hname : '\n' ∉ e.severity.name.toList := by
    cases e.severity <;> decide
  have hmiddle : '\n' ∉ ". [".toList ++ (e.severity.name.toList ++ "] ".toList) := by
    simp [hname]
  have h := (toDigits_tidy number).append e.body_tidy hmiddle
  rw [List.append_assoc, List.append_assoc] at h
  exact h

/-- The title ends at the first mark. -/
theorem cutOnce_body (e : Entry) :
    cutOnce " - ".toList e.body = some (e.title.toList, e.description.toList) := by
  refine cutOnce_append _ (by decide) fun s hs hne hmark => ?_
  replace hmark : [' ', '-', ' '] <+: s ++ ([' ', '-', ' '] ++ e.description.toList) := hmark
  -- A mark that begins in the title ends there, or it takes in the end of the title and more.
  cases s with
  | nil => exact hne rfl
  | cons a s =>
    rw [List.cons_append, List.cons_prefix_cons] at hmark
    obtain ⟨rfl, hmark⟩ := hmark
    cases s with
    | nil => exact absurd hmark (by simp)
    | cons b s =>
      rw [List.cons_append, List.cons_prefix_cons] at hmark
      obtain ⟨rfl, hmark⟩ := hmark
      cases s with
      | nil => exact e.title_end hs
      | cons c s =>
        rw [List.cons_append, List.cons_prefix_cons] at hmark
        obtain ⟨rfl, -⟩ := hmark
        have hin : [' ', '-', ' '] <:+: ' ' :: '-' :: ' ' :: s :=
          (List.prefix_append [' ', '-', ' '] s).isInfix
        exact e.title_unmarked (hin.trans hs.isInfix)

theorem issue_item (e : Entry) : Item.issue ⟨some e.severity.name.toList, e.body⟩ = e.issue := by
  simp only [Item.issue, e.cutOnce_body, e.title_tidy.trim_eq, e.description_tidy.trim_eq, issue]
  simp [Severity.ofLabel_name]

end Entry

theorem tag?_name (s : Severity) (rest : List Char) :
    tag? ('[' :: (s.name.toList ++ ']' :: rest)) = some (s.name.toList, rest) := by
  have hword : ∀ c ∈ s.name.toList, isWordChar c = true := by
    refine List.all_eq_true.1 ?_
    cases s <;> decide +kernel
  have hbracket : isWordChar ']' = false := by decide +kernel
  have hne : s.name.toList ≠ [] := by
    cases s <;> decide
  rw [tag?, List.takeWhile_append_of_pos hword, List.dropWhile_append_of_pos hword,
    List.takeWhile_cons_of_neg (by simp [hbracket]), List.dropWhile_cons_of_neg (by simp [hbracket]),
    List.append_nil]
  simp [hne]

/-- An entry is read from its line. -/
theorem ofLine?_line (number : Nat) (e : Entry) :
    Item.ofLine? (e.line number) = some ⟨some e.severity.name.toList, e.body⟩ := by
  obtain ⟨htake, hdrop⟩ := takeWhile_digits
    (List.all_eq_true.2 fun d (hd : d ∈ Nat.toDigits 10 number) => isDecimalDigit_of_mem_toDigits hd)
    (show isDecimalDigit '.' = false by decide)
    (' ' :: '[' :: (e.severity.name.toList ++ ']' :: ' ' :: e.body))
  have hbody : (' ' :: e.body).dropWhile isBlank = e.body := by
    rw [List.dropWhile_cons_of_pos (by decide), e.body_tidy.dropWhile_eq]
  have hblank : isBlank ' ' = true := by decide
  have hbracket : isBlank '[' = false := by decide
  have htext : Item.ofText? [' '] ('[' :: (e.severity.name.toList ++ ']' :: ' ' :: e.body)) =
      some ⟨some e.severity.name.toList, e.body⟩ := by
    simp [Item.ofText?, tag?_name, hbody, e.body_tidy.ne_nil, e.body_tidy.trimEnd_eq]
  simp only [Item.ofLine?, (e.line_tidy number).dropWhile_eq]
  simp only [e.line_eq, htake, hdrop]
  simp [hblank, hbracket, htext, Nat.toDigits_ne_nil]

theorem items_entryLines (first : Nat) (entries : List Entry) :
    items (entryLines first entries) = entries.map Entry.issue := by
  induction entries generalizing first with
  | nil => rfl
  | cons e es ih =>
    have hne : (e.line first).isEmpty = false := by simp [(e.line_tidy first).ne_nil]
    rw [entryLines, items, (e.line_tidy first).trim_eq, hne, ofLine?_line]
    simp only [Bool.false_eq_true, if_false, e.issue_item, ih, List.map_cons]

/-! ## The whole layout -/

theorem Label.line_tidy (l : Label) (n : Numeral) : Tidy (l.line n) :=
  l.title_tidy.append n.tidy (by decide)

/-- The line of a label is no heading: it starts with another letter. -/
theorem isHeading_line (l : Label) (n : Numeral) : isHeading (l.line n) = false := by
  obtain ⟨c, cs, hl, hc, hi⟩ : ∃ c cs, l.title.toList = c :: cs ∧ c ≠ ':' ∧ lowerChar c ≠ 'i' := by
    cases l <;> exact ⟨_, _, rfl, by decide, by decide⟩
  rw [isHeading, (l.line_tidy n).trim_eq, Label.line, hl, List.cons_append,
    dropEndWhile_cons (by simp [hc]), lowerAscii, List.map_cons, beq_eq_false_iff_ne]
  intro heq
  exact hi (List.cons.inj heq).1

theorem heading_tidy : Tidy "Issues:".toList := ⟨by decide, by decide, by decide⟩

theorem entryLines_spec {first : Nat} {entries : List Entry} {l : List Char}
    (h : l ∈ entryLines first entries) : ∃ (number : Nat) (e : Entry), l = e.line number := by
  induction entries generalizing first with
  | nil => cases h
  | cons e es ih =>
    obtain rfl | h := List.mem_cons.1 h
    · exact ⟨first, e, rfl⟩
    · exact ih h

theorem layoutLines_tidy (figure : Label → Numeral) (entries : List Entry) :
    ∀ l ∈ layoutLines figure entries, Tidy l := by
  intro l h
  rw [layoutLines, List.mem_append, List.mem_cons] at h
  obtain h | rfl | h := h
  · obtain ⟨label, -, rfl⟩ := List.mem_map.1 h
    exact label.line_tidy _
  · exact heading_tidy
  · obtain ⟨number, e, rfl⟩ := entryLines_spec h
    exact e.line_tidy number

/-- The list is read from below its heading. -/
theorem listedIssues_layout (figure : Label → Numeral) (entries : List Entry) (ended : Bool) :
    listedIssues (joined ended (layoutLines figure entries)) = entries.map Entry.issue := by
  have hlabels : ∀ l ∈ labels.map fun l => l.line (figure l), (!isHeading l) = true := by
    intro l h
    obtain ⟨label, -, rfl⟩ := List.mem_map.1 h
    rw [isHeading_line]
    rfl
  have hheading : isHeading "Issues:".toList = true := by decide
  rw [listedIssues, lines_joined ended (layoutLines_tidy figure entries), layoutLines,
    List.dropWhile_append_of_pos hlabels, List.dropWhile_cons_of_neg (by rw [hheading]; decide),
    List.drop_one, List.tail_cons, items_entryLines]

theorem heading_unlabelled : Unlabelled "Issues:".toList :=
  ⟨by decide, _, _, rfl, by decide, fun l => by cases l <;> decide⟩

/-- The line of an entry starts with a digit, which is no letter of a label. -/
theorem Entry.line_unlabelled (number : Nat) (e : Entry) : Unlabelled (e.line number) := by
  obtain ⟨d, ds, hd⟩ := List.exists_cons_of_ne_nil (Nat.toDigits_ne_nil (n := number) (b := 10))
  have hmem : d ∈ Nat.toDigits 10 number := by simp [hd]
  have hdigit : d.isDigit = true := Nat.isDigit_of_mem_toDigits (by decide) (by decide) hmem
  refine ⟨(e.line_tidy number).oneLine, d, _, by rw [line, hd, List.cons_append],
    isBlank_of_isDecimalDigit (isDecimalDigit_of_isDigit hdigit), fun l => ?_⟩
  exact folds_initial_of_isDigit hdigit l

/-- The figures are read from above the list. -/
theorem figures_layout (figure : Label → Numeral) (entries : List Entry) (ended : Bool) :
    figures (joined ended (layoutLines figure entries)) =
      labels.map fun l => (l, figureOfText (figure l).text) := by
  have hbelow : ∀ l ∈ "Issues:".toList :: entryLines 1 entries, Unlabelled l := by
    intro l h
    obtain rfl | h := List.mem_cons.1 h
    · exact heading_unlabelled
    · obtain ⟨number, e, rfl⟩ := entryLines_spec h
      exact e.line_unlabelled number
  have htext : joined ended (layoutLines figure entries) =
      labels.flatMap (fun l => l.line (figure l) ++ ['\n']) ++
        joined ended ("Issues:".toList :: entryLines 1 entries) := by
    rw [layoutLines, joined_append ended _ (by simp), List.flatMap_map]
  have hfuel : 2 * labels.length ≤ (joined ended (layoutLines figure entries)).length := by
    have hle := length_labels_le figure labels
    rw [htext, List.length_append]
    omega
  obtain ⟨fuel, hfuel⟩ := Nat.exists_eq_add_of_le' hfuel
  rw [figures, hfuel, htext, figuresWith_labels, figuresWith_unlabelled ended hbelow, List.append_nil]

end Fanout.Labeled

namespace Fanout
open Labeled

/-- Figures and issues that are laid out as the prompt asks for it are read back. -/
theorem Insight.ofLabeledReply_layout (figure : Labeled.Label → Numeral) (entries : List Entry)
    (ended : Bool) :
    Insight.ofLabeledReply (layout figure entries ended) =
      { loadTimeImpact := figureOfText (figure .loadTimeImpact).text
        databaseEfficiency := figureOfText (figure .databaseEfficiency).text
        networkOptimization := figureOfText (figure .networkOptimization).text
        potentialImprovement := figureOfText (figure .potentialImprovement).text
        additionalIssues := entries.map Entry.issue } := by
  rw [Insight.ofLabeledReply, layout, String.toList_ofList, figures_layout, listedIssues_layout]
  simp only [labels, List.map_cons, List.map_nil, List.foldl_cons, List.foldl_nil, record]

/-- Titles and descriptions may hold brackets, dashes and numbers. -/
def dashedEntry : Entry where
  severity := .warning
  title := "- [2] await -in loop-"
  description := "[critical] 3. Load Time Impact: 9 - see - 1."
  title_tidy := ⟨by decide, by decide, by decide⟩
  title_unmarked := by decide +kernel
  title_end := by decide
  description_tidy := ⟨by decide, by decide, by decide⟩

def signedNumeral : Numeral where
  sign := ['-']
  whole := ['1', '2']
  fraction := ['.', '5', '0']
  sign_eq := .inr (.inl rfl)
  whole_ne := by decide
  whole_digits := by decide
  fraction_eq := .inr ⟨['5', '0'], by decide, by decide, rfl⟩

example :
    listedIssues (Text.joined true (layoutLines (fun _ => signedNumeral) [dashedEntry, dashedEntry])) =
      [dashedEntry.issue, dashedEntry.issue] := by
  decide +kernel

end Fanout
