import Mathlib.Data.List.Forall2
import Fanout.Proofs.Insight.LabeledItems

/-!
# The section of a labeled list

* `Heading` : the line that the list stands under;
* `itemLines` : the items of the first section, up to a line that is neither blank nor an item;
* `ReadsSection` : a reading that lists the items of the section, whatever stands around them;
* `Insight.ofLabeledReply_readsSection` : a reply is read so.
-/

namespace Fanout
namespace Labeled
open Text

/-! ## Headings -/

/-- The word `issues`, in whatever case of ASCII, with colons or none behind it and blanks around both. -/
def Heading (line : List Char) : Prop :=
  ∃ before word colons after, line = before ++ (word ++ colons ++ after) ∧ Blank before ∧
    lowerAscii word = "issues".toList ∧ (∀ c ∈ colons, c = ':') ∧ Blank after

theorem mem_of_lowerChar_mem {c : Char} (h : lowerChar c ∈ "issues".toList) : c ∈ "issueISUE".toList := by
  unfold lowerChar at h
  split_ifs at h with hupper
  · rw [Bool.and_eq_true, decide_eq_true_iff, decide_eq_true_iff] at hupper
    have hA : 65 ≤ c.toNat := hupper.1
    have hZ : c.toNat ≤ 90 := hupper.2
    have letters : ∀ k : Fin 26, Char.ofNat (65 + k + 32) ∈ "issues".toList →
        Char.ofNat (65 + k) ∈ "issueISUE".toList := by
      decide
    have hc : 65 + (c.toNat - 65) = c.toNat := by omega
    have hmem := letters ⟨c.toNat - 65, by omega⟩
    rw [hc, Char.ofNat_toNat] at hmem
    exact hmem h
  · have small : ("issues".toList.all fun d => d ∈ "issueISUE".toList) = true := by decide
    exact of_decide_eq_true (List.all_eq_true.1 small c h)

/-- The letters of a heading are no blanks, colons or digits. -/
theorem letter_of_lowerAscii {word : List Char} (h : lowerAscii word = "issues".toList) {c : Char}
    (hc : c ∈ word) : isBlank c = false ∧ c ≠ ':' ∧ isDecimalDigit c = false := by
  have letters : ("issueISUE".toList.all fun d =>
      isBlank d = false ∧ d ≠ ':' ∧ isDecimalDigit d = false) = true := by
    decide
  have hmem : c ∈ "issueISUE".toList := mem_of_lowerChar_mem (h ▸ List.mem_map_of_mem hc)
  exact of_decide_eq_true (List.all_eq_true.1 letters c hmem)

theorem isHeading_iff {line : List Char} : isHeading line = true ↔ Heading line := by
  rw [isHeading, beq_iff_eq]
  constructor
  · intro h
    obtain ⟨before, after, hline, hbefore, hafter⟩ := exists_trim line
    obtain ⟨colons, htrim, hcolons⟩ := exists_dropEndWhile (· == ':') (trim line)
    refine ⟨before, _, colons, after, ?_, hbefore, h, fun c hc => eq_of_beq (hcolons c hc), hafter⟩
    rw [← htrim]
    exact hline
  · rintro ⟨before, word, colons, after, rfl, hbefore, hword, hcolons, hafter⟩
    have htrimmed : Trimmed (word ++ colons) := by
      refine trimmed_of_not_blank (List.forall_mem_append.2 ⟨fun c hc => (letter_of_lowerAscii hword hc).1,
        fun c hc => ?_⟩)
      rw [hcolons c hc]
      decide
    have hcut : dropEndWhile (· == ':') word = word := dropEndWhile_eq_self fun c hc =>
      beq_eq_false_iff_ne.2 (letter_of_lowerAscii hword (List.mem_of_mem_getLast? hc)).2.1
    rw [htrimmed.trim_append hbefore hafter, dropEndWhile_of_all fun c hc => beq_iff_eq.2 (hcolons c hc), hcut,
      hword]

instance : DecidablePred Heading := fun _ => decidable_of_iff _ isHeading_iff

/-- A heading begins with a letter behind its blanks. -/
theorem Heading.dropWhile {line : List Char} (h : Heading line) :
    ∃ c rest, line.dropWhile isBlank = c :: rest ∧ isDecimalDigit c = false := by
  obtain ⟨before, word, colons, after, rfl, hbefore, hword, -, -⟩ := h
  cases word with
  | nil => cases hword
  | cons c word =>
    obtain ⟨hblank, -, hdigit⟩ := letter_of_lowerAscii hword List.mem_cons_self
    refine ⟨c, word ++ colons ++ after, ?_, hdigit⟩
    rw [List.dropWhile_append_of_pos hbefore, List.cons_append, List.cons_append,
      List.dropWhile_cons_of_neg (by simp [hblank])]

theorem Blank.not_heading {line : List Char} (h : Blank line) : ¬Heading line := by
  intro hheading
  obtain ⟨c, rest, hdrop, -⟩ := hheading.dropWhile
  rw [blank_iff_dropWhile.1 h] at hdrop
  cases hdrop

theorem Ordinal.not_heading {ordinal : List Char} (h : Ordinal ordinal) (rest : List Char) :
    ¬Heading (ordinal ++ rest) := by
  intro hheading
  obtain ⟨c, tail, hdrop, hc⟩ := hheading.dropWhile
  obtain ⟨digits, mark, hstart, hne, hdigits, -⟩ := h.dropWhile_append rest
  obtain ⟨d, ds, rfl⟩ := List.exists_cons_of_ne_nil hne
  rw [hstart, List.cons_append] at hdrop
  obtain ⟨rfl, -⟩ := List.cons.inj hdrop
  rw [hdigits d List.mem_cons_self] at hc
  cases hc

theorem Ordinal.not_blank {ordinal : List Char} (h : Ordinal ordinal) (rest : List Char) :
    ¬Blank (ordinal ++ rest) := by
  intro hblank
  obtain ⟨digits, mark, hstart, -, -, -⟩ := h.dropWhile_append rest
  rw [blank_iff_dropWhile.1 hblank] at hstart
  simp at hstart

/-! ## The section -/

/-- The lines below the first heading. -/
def below (ls : List (List Char)) : List (List Char) := (ls.dropWhile fun l => ¬Heading l).tail

/-- The items of a list, up to the first line that is neither blank nor an item. -/
def listed (ls : List (List Char)) : List (List Char) :=
  (ls.takeWhile fun l => Blank l ∨ IsItem l).filter fun l => IsItem l

/-- The items of the first section of a text. -/
def itemLines (text : List Char) : List (List Char) := listed (below (lines text))

/-- The line is an item, and the issue is what it says. -/
def Itemizes (line : List Char) (i : Issue) : Prop := ∃ item, Item.ofLine? line = some item ∧ item.issue = i

theorem Blank.not_isItem {line : List Char} (h : Blank line) : ¬IsItem line := by
  rintro ⟨text, ⟨ordinal, gap, rfl, hordinal, -, -⟩, -⟩
  exact hordinal.not_blank _ h

theorem items_cons_of_blank {line : List Char} (h : Blank line) (ls : List (List Char)) :
    items (line :: ls) = items ls := by
  rw [items, trim_eq_nil_iff.2 h]
  rfl

theorem items_cons_of_not_blank {line : List Char} (h : ¬Blank line) (ls : List (List Char)) :
    items (line :: ls) = match Item.ofLine? line with
      | some i => i.issue :: items ls
      | none => [] := by
  have hne : ¬(trim line).isEmpty = true := fun hempty => h (trim_eq_nil_iff.1 (List.isEmpty_iff.1 hempty))
  rw [items]
  exact if_neg hne

/-- The list ends at a line that is neither blank nor an item. -/
theorem items_cons_of_stop {line : List Char} (hblank : ¬Blank line) (hitem : ¬IsItem line)
    (ls : List (List Char)) : items (line :: ls) = [] := by
  rw [← isSome_ofLine?_iff, Option.not_isSome_iff_eq_none] at hitem
  rw [items_cons_of_not_blank hblank, hitem]

theorem forall₂_items (ls : List (List Char)) : List.Forall₂ Itemizes (listed ls) (items ls) := by
  induction ls with
  | nil => exact .nil
  | cons line ls ih =>
    by_cases hblank : Blank line
    · have hlisted : listed (line :: ls) = listed ls := by
        rw [listed, List.takeWhile_cons_of_pos (by simp [hblank]),
          List.filter_cons_of_neg (by simp [hblank.not_isItem]), listed]
      rw [hlisted, items_cons_of_blank hblank]
      exact ih
    · by_cases hitem : IsItem line
      · obtain ⟨item, hline⟩ := Option.isSome_iff_exists.1 (isSome_ofLine?_iff.2 hitem)
        have hlisted : listed (line :: ls) = line :: listed ls := by
          rw [listed, List.takeWhile_cons_of_pos (by simp [hitem]), List.filter_cons_of_pos (by simp [hitem]),
            listed]
        rw [hlisted, items_cons_of_not_blank hblank, hline]
        exact .cons ⟨item, hline, rfl⟩ ih
      · have hlisted : listed (line :: ls) = [] := by
          rw [listed, List.takeWhile_cons_of_neg (by simp [hblank, hitem]), List.filter_nil]
        rw [hlisted, items_cons_of_stop hblank hitem]
        exact .nil

/-! ## Parts of a text -/

theorem items_append_congr {ls ls' : List (List Char)} (h : items ls = items ls') (front : List (List Char)) :
    items (front ++ ls) = items (front ++ ls') := by
  induction front with
  | nil => exact h
  | cons line front ih =>
    rw [List.cons_append, List.cons_append]
    by_cases hblank : Blank line
    · rw [items_cons_of_blank hblank, items_cons_of_blank hblank, ih]
    · rw [items_cons_of_not_blank hblank, items_cons_of_not_blank hblank, ih]

theorem below_append_of_heading {front : List (List Char)} (h : ∃ l ∈ front, Heading l) (ls : List (List Char)) :
    below (front ++ ls) = below front ++ ls := by
  have hne : front.dropWhile (fun l => ¬Heading l) ≠ [] := by
    obtain ⟨l, hl, hheading⟩ := h
    rw [Ne, List.dropWhile_eq_nil_iff]
    intro hnone
    simpa [hheading] using hnone l hl
  rw [below, List.dropWhile_append, if_neg (by simpa using hne), List.tail_append_of_ne_nil hne, below]

theorem below_append_of_no_heading {front : List (List Char)} (h : ∀ l ∈ front, ¬Heading l)
    (ls : List (List Char)) : below (front ++ ls) = below ls := by
  rw [below, List.dropWhile_append_of_pos fun l hl => decide_eq_true (h l hl), below]

/-- Lines may be replaced behind any others if the same is read from them below a heading as elsewhere. -/
theorem items_below_append_congr {ls ls' : List (List Char)} (h : items ls = items ls')
    (hbelow : items (below ls) = items (below ls')) (front : List (List Char)) :
    items (below (front ++ ls)) = items (below (front ++ ls')) := by
  by_cases hheading : ∃ l ∈ front, Heading l
  · rw [below_append_of_heading hheading, below_append_of_heading hheading]
    exact items_append_congr h _
  · have hno : ∀ l ∈ front, ¬Heading l := fun l hl hl' => hheading ⟨l, hl, hl'⟩
    rw [below_append_of_no_heading hno, below_append_of_no_heading hno]
    exact hbelow

theorem items_append_of_blank {pad : List (List Char)} (h : ∀ l ∈ pad, Blank l) (ls : List (List Char)) :
    items (pad ++ ls) = items ls := by
  induction pad with
  | nil => rfl
  | cons line pad ih =>
    rw [List.forall_mem_cons] at h
    rw [List.cons_append, items_cons_of_blank h.1, ih h.2]

theorem items_cons_ordinal {ordinal ordinal' : List Char} (h : Ordinal ordinal) (h' : Ordinal ordinal')
    (rest : List Char) (ls : List (List Char)) :
    items ((ordinal ++ rest) :: ls) = items ((ordinal' ++ rest) :: ls) := by
  rw [items_cons_of_not_blank (h.not_blank rest), items_cons_of_not_blank (h'.not_blank rest),
    Item.ofLine?_ordinal h, Item.ofLine?_ordinal h']

/-! ## Texts -/

theorem listedIssues_eq (text : List Char) : listedIssues text = items (below (lines text)) := by
  have hheading : (fun l => !isHeading l) = fun l => decide (¬Heading l) := by
    funext l
    simp [← isHeading_iff]
  rw [listedIssues, hheading, List.drop_one, below]

section
variable {front rest : List Char} (ended : Ended front)
include ended

theorem listedIssues_above (h : ∀ l ∈ lines front, ¬Heading l) :
    listedIssues (front ++ rest) = listedIssues rest := by
  rw [listedIssues_eq, listedIssues_eq, lines_append ended, below_append_of_no_heading h]

theorem listedIssues_behind {stop : List Char} (headed : ∃ l ∈ lines front, Heading l) (oneLine : '\n' ∉ stop)
    (hblank : ¬Blank (dropReturn stop)) (hitem : ¬IsItem (dropReturn stop)) :
    listedIssues (front ++ (stop ++ '\n' :: rest)) = listedIssues front := by
  rw [listedIssues_eq, listedIssues_eq, lines_append ended, lines_line oneLine, below_append_of_heading headed]
  have hstop : items (dropReturn stop :: lines rest) = items [] := items_cons_of_stop hblank hitem _
  rw [items_append_congr hstop, List.append_nil]

theorem listedIssues_spaced {pad : List Char} (padEnded : Ended pad) (hpad : Blank pad) :
    listedIssues (front ++ (pad ++ rest)) = listedIssues (front ++ rest) := by
  have hlines : ∀ l ∈ lines pad, Blank l := fun l hl c hc => hpad c (mem_of_mem_lines hl hc)
  rw [listedIssues_eq, listedIssues_eq, lines_append ended, lines_append ended, lines_append padEnded]
  refine items_below_append_congr (items_append_of_blank hlines _) ?_ _
  rw [below_append_of_no_heading fun l hl => (hlines l hl).not_heading]

end

theorem Ordinal.getLast?_ne {ordinal : List Char} (h : Ordinal ordinal) : ordinal.getLast? ≠ some '\r' := by
  obtain ⟨indent, digits, mark, rfl, -, -, -, hmark⟩ := h
  rw [← List.append_assoc, List.getLast?_concat]
  rintro ⟨⟩
  obtain hmark | hmark := hmark <;> cases hmark

theorem Ordinal.ne_nil {ordinal : List Char} (h : Ordinal ordinal) : ordinal ≠ [] := by
  rintro rfl
  exact h.not_blank [] nofun

theorem listedIssues_renumbered {front : List Char} (ended : Ended front) {ordinal ordinal' : List Char}
    (h : Ordinal ordinal) (h' : Ordinal ordinal') (oneLine : '\n' ∉ ordinal) (oneLine' : '\n' ∉ ordinal')
    (rest : List Char) :
    listedIssues (front ++ (ordinal ++ rest)) = listedIssues (front ++ (ordinal' ++ rest)) := by
  obtain ⟨ending, more, hlines⟩ := exists_lines_append rest
  have below_ordinal {o : List Char} (ho : Ordinal o) : below ((o ++ ending) :: more) = below more := by
    have hline : ∀ l ∈ [o ++ ending], ¬Heading l := by simpa using ho.not_heading ending
    exact below_append_of_no_heading hline more
  rw [listedIssues_eq, listedIssues_eq, lines_append ended, lines_append ended,
    hlines ordinal h.ne_nil oneLine h.getLast?_ne, hlines ordinal' h'.ne_nil oneLine' h'.getLast?_ne]
  refine items_below_append_congr (items_cons_ordinal h h' ending more) ?_ _
  rw [below_ordinal h, below_ordinal h']

/-! ## The whole reply -/

/-- A reading that lists exactly the items of the section. -/
structure ReadsSection (issues : String → List Issue) : Prop where
  /-- Each item of the section gives one issue, in order. -/
  items (text : String) : List.Forall₂ Itemizes (itemLines text.toList) (issues text)
  /-- Without a heading there is no issue. -/
  headless (text : String) : (∀ l ∈ lines text.toList, ¬Heading l) → issues text = []
  /-- Lines above the heading do not matter. -/
  above (front rest : String) : Ended front.toList → (∀ l ∈ lines front.toList, ¬Heading l) →
    issues (front ++ rest) = issues rest
  /-- Nothing matters that follows a line that is neither blank nor an item. -/
  behind (front stop rest : String) : Ended front.toList → (∃ l ∈ lines front.toList, Heading l) →
    '\n' ∉ stop.toList → ¬Blank (dropReturn stop.toList) → ¬IsItem (dropReturn stop.toList) →
    issues (front ++ (stop ++ "\n" ++ rest)) = issues front
  /-- Blank lines between others do not matter. -/
  spaced (front pad rest : String) : Ended front.toList → Ended pad.toList → Blank pad.toList →
    issues (front ++ (pad ++ rest)) = issues (front ++ rest)
  /-- It does not matter how an item is numbered. -/
  renumbered (front ordinal ordinal' rest : String) : Ended front.toList → Ordinal ordinal.toList →
    Ordinal ordinal'.toList → '\n' ∉ ordinal.toList → '\n' ∉ ordinal'.toList →
    issues (front ++ (ordinal ++ rest)) = issues (front ++ (ordinal' ++ rest))

end Labeled
open Labeled Text

/-- The issues of a reply are the items of its first section, and they do not depend on anything else: not on what
stands above the heading or behind the list, nor on blank lines or the numbers of the items. -/
theorem Insight.ofLabeledReply_readsSection :
    ReadsSection fun text => (Insight.ofLabeledReply text).additionalIssues where
  items text := by
    change List.Forall₂ Itemizes _ (listedIssues text.toList)
    rw [listedIssues_eq]
    exact forall₂_items _
  headless text h := by
    change listedIssues text.toList = []
    have hbelow := below_append_of_no_heading h []
    rw [List.append_nil] at hbelow
    rw [listedIssues_eq, hbelow]
    rfl
  above front rest ended h := by
    change listedIssues (front ++ rest).toList = listedIssues rest.toList
    rw [String.toList_append]
    exact listedIssues_above ended h
  behind front stop rest ended headed oneLine hblank hitem := by
    change listedIssues (front ++ (stop ++ "\n" ++ rest)).toList = listedIssues front.toList
    rw [String.toList_append, String.toList_append, String.toList_append, List.append_assoc]
    exact listedIssues_behind ended headed oneLine hblank hitem
  spaced front pad rest ended padEnded hpad := by
    change listedIssues (front ++ (pad ++ rest)).toList = listedIssues (front ++ rest).toList
    rw [String.toList_append, String.toList_append, String.toList_append]
    exact listedIssues_spaced ended padEnded hpad
  renumbered front ordinal ordinal' rest ended h h' oneLine oneLine' := by
    change listedIssues (front ++ (ordinal ++ rest)).toList = listedIssues (front ++ (ordinal' ++ rest)).toList
    rw [String.toList_append, String.toList_append, String.toList_append, String.toList_append]
    exact listedIssues_renumbered ended h h' oneLine oneLine' rest.toList

theorem Insight.ofLabeledReply_readsSection_twoSections :
    (ofLabeledReply ("1. Above\n" ++ "ISSUES::\n1. Loop")).additionalIssues =
        (ofLabeledReply "ISSUES::\n1. Loop").additionalIssues ∧
      (ofLabeledReply ("issues\n1. Loop\n" ++ ("Done.\r" ++ "\n" ++ "Issues:\n2. Behind"))).additionalIssues =
        (ofLabeledReply "issues\n1. Loop\n").additionalIssues ∧
      (ofLabeledReply ("Issues:\n" ++ (" \n\t\r\n" ++ "1. Loop"))).additionalIssues =
        (ofLabeledReply ("Issues:\n" ++ "1. Loop")).additionalIssues ∧
      (ofLabeledReply ("Issues:\n" ++ ("1." ++ " Loop\n2. Scan"))).additionalIssues =
        (ofLabeledReply ("Issues:\n" ++ (" 27)" ++ " Loop\n2. Scan"))).additionalIssues ∧
      (ofLabeledReply "1. Loop").additionalIssues = [] := by
  have h := ofLabeledReply_readsSection
  have first : Ordinal "1.".toList :=
    ⟨[], ['1'], '.', by decide, by decide, by decide, List.all_eq_true.1 (by decide), .inl rfl⟩
  have other : Ordinal " 27)".toList :=
    ⟨[' '], ['2', '7'], ')', by decide, by decide, by decide, List.all_eq_true.1 (by decide), .inr rfl⟩
  refine ⟨h.above _ _ ?_ ?_, h.behind _ _ _ ?_ ?_ ?_ ?_ ?_, h.spaced _ _ _ ?_ ?_ ?_,
    h.renumbered _ _ _ _ ?_ first other ?_ ?_, h.headless _ ?_⟩
  all_goals decide

end Fanout
