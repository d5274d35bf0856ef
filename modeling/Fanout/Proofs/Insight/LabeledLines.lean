import Fanout.Proofs.Insight.LabeledScan

/-!
# Figures line by line

* `HasFigure` : a text that begins with a label and its figure;
* `LastFigure` : the figure of the last text that has one, or zero;
* `rows` : the lines of a reply, and `onward` : the texts from each line on;
* `Settled` : wherever a figure may be read over several lines, a line has one on its own;
* `Insight.ofLabeledReply_figures` : each figure of a reply is the last that can be read from the beginning of a line
  on, and in a settled reply it is the last of a single line, whichever other lines are added;
* `Insight.not_forall_lastFigure_rows` : in other replies it may come from the line behind that of its label.
-/

namespace Fanout.Labeled
open Text

/-! ## The last figure -/

/-- On its own, the text begins with a label, a colon and a number. -/
def HasFigure (l : Label) (text : List Char) : Prop := ∃ n, Carries l n text

theorem not_hasFigure_iff {l : Label} {text : List Char} : ¬HasFigure l text ↔ figureAt? l text = none := by
  rw [figureAt?_eq_none_iff, HasFigure, not_exists]

theorem hasFigure_iff {l : Label} {text : List Char} : HasFigure l text ↔ (figureAt? l text).isSome = true := by
  rw [← not_iff_not, not_hasFigure_iff, Option.not_isSome_iff_eq_none]

instance (l : Label) (text : List Char) : Decidable (HasFigure l text) := decidable_of_iff _ hasFigure_iff.symm

/-- The figure of a label in the last of some texts that has one, or zero where none has. -/
inductive LastFigure (l : Label) : List (List Char) → Float → Prop
  | none {texts : List (List Char)} (h : ∀ text ∈ texts, ¬HasFigure l text) : LastFigure l texts 0
  | last {before after : List (List Char)} {text : List Char} {n : Numeral} (h : Carries l n text)
    (hafter : ∀ text ∈ after, ¬HasFigure l text) : LastFigure l (before ++ text :: after) (figureOfText n.text)

theorem getLast?_filterMap_cons {α β : Type} (f : α → Option β) (x : α) (xs : List α) :
    ((x :: xs).filterMap f).getLast? = ((xs.filterMap f).getLast?).or (f x) := by
  cases h : f x with
  | none => rw [List.filterMap_cons_none h, Option.or_none]
  | some y =>
    rw [List.filterMap_cons_some h, List.getLast?_cons]
    cases (xs.filterMap f).getLast? <;> rfl

/-- The last figure, if there is one. -/
def lastFigure? (l : Label) (texts : List (List Char)) : Option Float := (texts.filterMap (figureAt? l)).getLast?

theorem lastFigure?_cons (l : Label) (text : List Char) (texts : List (List Char)) :
    lastFigure? l (text :: texts) = (lastFigure? l texts).or (figureAt? l text) :=
  getLast?_filterMap_cons _ text texts

theorem lastFigure?_eq_none_iff {l : Label} {texts : List (List Char)} :
    lastFigure? l texts = none ↔ ∀ text ∈ texts, ¬HasFigure l text := by
  rw [lastFigure?, List.getLast?_eq_none_iff, List.filterMap_eq_nil_iff]
  simp only [not_hasFigure_iff]

theorem lastFigure_iff {l : Label} {texts : List (List Char)} {x : Float} :
    LastFigure l texts x ↔ (lastFigure? l texts).getD 0 = x := by
  constructor
  · intro h
    cases h with
    | none h => rw [lastFigure?_eq_none_iff.2 h, Option.getD_none]
    | @last before after text n h hafter =>
      have htext : lastFigure? l (text :: after) = some (figureOfText n.text) := by
        rw [lastFigure?_cons, lastFigure?_eq_none_iff.2 hafter, Option.none_or]
        exact figureAt?_eq_some_iff.2 ⟨n, h, rfl⟩
      have hbefore : lastFigure? l (before ++ text :: after) = some (figureOfText n.text) := by
        induction before with
        | nil => exact htext
        | cons _ before ih => rw [List.cons_append, lastFigure?_cons, ih, Option.some_or]
      rw [hbefore, Option.getD_some]
  · rintro rfl
    cases h : lastFigure? l texts with
    | none => exact .none (lastFigure?_eq_none_iff.1 h)
    | some x =>
      rw [lastFigure?, List.getLast?_filterMap] at h
      obtain ⟨after, text, before, hreverse, hx, hafter⟩ := List.findSome?_eq_some_iff.1 h
      obtain ⟨n, hn, rfl⟩ := figureAt?_eq_some_iff.1 hx
      have htexts : texts = before.reverse ++ text :: after.reverse := by
        rw [← List.reverse_reverse texts, hreverse]
        simp
      rw [htexts, Option.getD_some]
      exact .last hn fun text htext => not_hasFigure_iff.2 (hafter text (List.mem_reverse.1 htext))

/-! ## Lines -/

/-- The lines of a reply, between its line feeds. -/
def rows (text : String) : List (List Char) := text.toList.splitOn '\n'

def unrows (lines : List (List Char)) : List Char := ['\n'].intercalate lines

/-- The texts from each line on. -/
def onward (lines : List (List Char)) : List (List Char) := lines.tails.map unrows

theorem unrows_rows (text : String) : unrows (rows text) = text.toList := List.intercalate_splitOn '\n'

theorem rows_ofList (cs : List Char) : rows (String.ofList cs) = cs.splitOn '\n' := by
  rw [rows, String.toList_ofList]

theorem unrows_cons_cons (line line' : List Char) (lines : List (List Char)) :
    unrows (line :: line' :: lines) = line ++ '\n' :: unrows (line' :: lines) := by
  rw [unrows, List.intercalate_cons_cons, List.append_assoc, List.singleton_append, unrows]

theorem onward_cons (line : List Char) (lines : List (List Char)) :
    onward (line :: lines) = unrows (line :: lines) :: onward lines := rfl

theorem unrows_mem_onward (lines : List (List Char)) : unrows lines ∈ onward lines := by
  cases lines with
  | nil => exact List.mem_singleton_self _
  | cons line lines => exact List.mem_cons_self

theorem lineFeed_not_mem_of_mem_splitOn {cs line : List Char} (h : line ∈ cs.splitOn '\n') : '\n' ∉ line := by
  induction cs generalizing line with
  | nil =>
    rw [List.splitOn_nil, List.mem_singleton] at h
    subst h
    exact List.not_mem_nil
  | cons c cs ih =>
    rw [List.splitOn_cons_eq_if_modifyHead] at h
    split_ifs at h with hc
    · obtain rfl | h := List.mem_cons.1 h
      · exact List.not_mem_nil
      · exact ih h
    · obtain ⟨first, lines, hlines⟩ := List.exists_cons_of_ne_nil (List.splitOn_ne_nil '\n' cs)
      rw [hlines] at h ih
      obtain rfl | h := List.mem_cons.1 h
      · rw [List.mem_cons, not_or]
        refine ⟨?_, ih List.mem_cons_self⟩
        rintro rfl
        exact hc (beq_self_eq_true _)
      · exact ih (List.mem_cons_of_mem _ h)

theorem figureAt?_nil (l : Label) : figureAt? l [] = none := by cases l <;> rfl

/-- What stands behind the first line: nothing, or a line feed and the other lines. -/
theorem exists_behind (line : List Char) (lines : List (List Char)) :
    ∃ behind, unrows (line :: lines) = line ++ behind ∧ (behind = [] ∨ ∃ rest, behind = '\n' :: rest) ∧
      (∀ fresh, openings fresh behind = openings true (unrows lines)) ∧
      ∀ l, figureAt? l behind = figureAt? l (unrows lines) := by
  cases lines with
  | nil =>
    refine ⟨[], ?_, .inl rfl, fun fresh => rfl, fun l => rfl⟩
    rw [unrows, List.intercalate_singleton, List.append_nil]
  | cons line' lines =>
    refine ⟨'\n' :: unrows (line' :: lines), unrows_cons_cons line line' lines, .inr ⟨_, rfl⟩, ?_, ?_⟩
    · intro fresh
      rw [openings, if_pos (by decide)]
      exact congrArg (openings · _) (Bool.or_true fresh)
    · intro l
      have hfeed : Blank ['\n'] := by decide
      exact figureAt?_append_of_blank hfeed l _

/-- The last figure at an opening is the last one that is read from a line on. -/
theorem lastFigure?_openings (l : Label) {lines : List (List Char)} (h : ∀ line ∈ lines, '\n' ∉ line) :
    lastFigure? l (openings true (unrows lines)) = lastFigure? l (onward lines) := by
  induction lines with
  | nil =>
    show none = lastFigure? l [[]]
    rw [lastFigure?_cons, figureAt?_nil]
    rfl
  | cons line lines ih =>
    obtain ⟨hline, h⟩ := List.forall_mem_cons.1 h
    obtain ⟨behind, hbehind, -, hopenings, hfigure⟩ := exists_behind line lines
    rw [onward_cons, lastFigure?_cons, ← ih h, hbehind]
    by_cases hblank : Blank line
    · -- A blank line has no opening, and what is read from it on is read again from the next line on.
      obtain ⟨fresh, hfresh, -⟩ := openings_append_of_blank hblank true behind
      rw [hfresh, hopenings, figureAt?_append_of_blank hblank, hfigure]
      cases hlast : lastFigure? l (openings true (unrows lines)) with
      | some x => rfl
      | none =>
        rw [ih h, lastFigure?_eq_none_iff] at hlast
        exact (not_hasFigure_iff.1 (hlast _ (unrows_mem_onward lines))).symm
    · obtain ⟨c, more, hvisible⟩ := List.exists_cons_of_ne_nil (mt blank_iff_dropWhile.2 hblank)
      obtain ⟨gap, rfl, hgap, hc⟩ := dropWhile_eq_cons hvisible
      obtain ⟨fresh, hfresh, hkept⟩ := openings_append_of_blank hgap true (c :: (more ++ behind))
      have hmore : '\n' ∉ c :: more := fun hmem => hline (List.mem_append_right gap hmem)
      have hrest := openings_false_append hmore behind
      rw [List.cons_append] at hrest
      rw [List.append_assoc, List.cons_append, hfresh, hkept rfl, openings_true_cons hc, hrest, hopenings,
        lastFigure?_cons, figureAt?_append_of_blank hgap]

/-! ## Figures of a reply -/

/-- The figure of a label in an insight. -/
def Label.figure : Label → Insight → Float
  | .loadTimeImpact => Insight.loadTimeImpact
  | .databaseEfficiency => Insight.databaseEfficiency
  | .networkOptimization => Insight.networkOptimization
  | .potentialImprovement => Insight.potentialImprovement

/-- The figure, if it is one of the label. -/
def ofLabel? (l : Label) (figure : Label × Float) : Option Float := if figure.1 = l then some figure.2 else none

theorem figure_record (l : Label) (r : Insight) (figure : Label × Float) :
    l.figure (record r figure) = (ofLabel? l figure).getD (l.figure r) := by
  obtain ⟨l', x⟩ := figure
  cases l <;> cases l' <;> rfl

/-- The last figure of a label counts. -/
theorem figure_foldl_record (l : Label) (figures : List (Label × Float)) (r : Insight) :
    l.figure (figures.foldl record r) = ((figures.filterMap (ofLabel? l)).getLast?).getD (l.figure r) := by
  induction figures generalizing r with
  | nil => rfl
  | cons figure figures ih =>
    rw [List.foldl_cons, ih, figure_record, getLast?_filterMap_cons]
    cases (figures.filterMap (ofLabel? l)).getLast? <;> rfl

theorem filterMap_readings (l : Label) (cs : List Char) :
    (readings cs).filterMap (ofLabel? l) = (figureAt? l cs).toList := by
  have hother {l' : Label} (hne : l' ≠ l) (x : Option Float) : (x.map (l', ·)).bind (ofLabel? l) = none := by
    cases x <;> simp [ofLabel?, hne]
  rw [readings, List.filterMap_filterMap]
  cases hl : figureAt? l cs <;> cases l <;> simp [labels, hother, hl, ofLabel?]

theorem filterMap_figures (l : Label) (cs : List Char) :
    (figures cs).filterMap (ofLabel? l) = (openings true cs).filterMap (figureAt? l) := by
  rw [figures, figuresWith_eq (Nat.le_refl _), readingsFrom, List.filterMap_flatMap]
  simp only [filterMap_readings]
  induction openings true cs with
  | nil => rfl
  | cons text texts ih =>
    rw [List.flatMap_cons, ih]
    cases h : figureAt? l text with
    | none => rw [List.filterMap_cons_none h]; rfl
    | some x => rw [List.filterMap_cons_some h]; rfl

theorem figure_ofLabeledReply (l : Label) (text : String) :
    l.figure (Insight.ofLabeledReply text) = (lastFigure? l (onward (rows text))).getD 0 := by
  have hrows : ∀ line ∈ rows text, '\n' ∉ line := fun line hline => lineFeed_not_mem_of_mem_splitOn hline
  have hissues : l.figure (Insight.ofLabeledReply text) = l.figure ((figures text.toList).foldl record .empty) := by
    cases l <;> rfl
  have hempty : l.figure .empty = 0 := by cases l <;> rfl
  rw [hissues, figure_foldl_record, hempty, filterMap_figures, ← lastFigure?_openings l hrows, unrows_rows, lastFigure?]

/-! ## Settled replies -/

/-- Wherever a figure is read from a line on, that line or one behind it has a figure on its own. -/
def Settled (l : Label) (lines : List (List Char)) : Prop :=
  ∀ lines' ∈ lines.tails, HasFigure l (unrows lines') → ∃ line ∈ lines', HasFigure l line

instance (l : Label) (lines : List (List Char)) : Decidable (Settled l lines) :=
  inferInstanceAs (Decidable (∀ lines' ∈ lines.tails, HasFigure l (unrows lines') → ∃ line ∈ lines', HasFigure l line))

theorem Numeral.Ends.append_behind {n : Numeral} {rest behind : List Char} (h : n.Ends rest)
    (hbehind : behind = [] ∨ ∃ more, behind = '\n' :: more) : n.Ends (rest ++ behind) := by
  obtain rfl | ⟨more, rfl⟩ := hbehind
  · rw [List.append_nil]
    exact h
  · constructor
    · cases rest with
      | nil => exact fun c hc => by cases hc; decide
      | cons c rest => exact h.digit
    · intro hfraction d tail heq
      obtain _ | ⟨c, _ | ⟨c', rest⟩⟩ := rest
      · cases heq
      · cases heq
        decide
      · cases heq
        exact h.point hfraction d rest rfl

/-- A figure on a line is read from the line on. -/
theorem Carries.append_behind {l : Label} {n : Numeral} {line behind : List Char} (h : Carries l n line)
    (hbehind : behind = [] ∨ ∃ more, behind = '\n' :: more) : Carries l n (line ++ behind) := by
  obtain ⟨label, rest, before, between, between', hbefore, hlabel, hbetween, hbetween', hends, rfl⟩ := h
  refine ⟨label, rest ++ behind, before, between, between', hbefore, hlabel, hbetween, hbetween',
    hends.append_behind hbehind, ?_⟩
  simp only [List.append_assoc, List.cons_append]

theorem lastFigure?_onward {l : Label} {lines : List (List Char)} (h : Settled l lines) :
    lastFigure? l (onward lines) = lastFigure? l lines := by
  induction lines with
  | nil =>
    show lastFigure? l [[]] = none
    rw [lastFigure?_cons, figureAt?_nil]
    rfl
  | cons line lines ih =>
    have hlines : Settled l lines := fun lines' hlines' => h lines' (List.mem_cons_of_mem _ hlines')
    rw [onward_cons, lastFigure?_cons, lastFigure?_cons, ih hlines]
    cases hlast : lastFigure? l lines with
    | some x => rfl
    | none =>
      have hnone := lastFigure?_eq_none_iff.1 hlast
      rw [Option.none_or, Option.none_or]
      cases hline : figureAt? l line with
      | some x =>
        obtain ⟨n, hn, rfl⟩ := figureAt?_eq_some_iff.1 hline
        obtain ⟨behind, hbehind, hfeed, -⟩ := exists_behind line lines
        rw [hbehind]
        exact figureAt?_eq_some_iff.2 ⟨n, hn.append_behind hfeed, rfl⟩
      | none =>
        refine not_hasFigure_iff.1 fun hunrows => ?_
        obtain ⟨line', hmem, hfigure⟩ := h (line :: lines) List.mem_cons_self hunrows
        obtain rfl | hmem := List.mem_cons.1 hmem
        · exact not_hasFigure_iff.2 hline hfigure
        · exact hnone line' hmem hfigure

/-- The second lines are the first ones with lines put in that have no figure of the label. -/
inductive Lengthened (l : Label) : List (List Char) → List (List Char) → Prop
  | nil : Lengthened l [] []
  | keep (line : List Char) {lines lines' : List (List Char)} (h : Lengthened l lines lines') :
    Lengthened l (line :: lines) (line :: lines')
  | add {line : List Char} (hline : ¬HasFigure l line) {lines lines' : List (List Char)}
    (h : Lengthened l lines lines') : Lengthened l lines (line :: lines')

theorem Lengthened.lastFigure?_eq {l : Label} {lines lines' : List (List Char)} (h : Lengthened l lines lines') :
    lastFigure? l lines' = lastFigure? l lines := by
  induction h with
  | nil => rfl
  | keep line _ ih => rw [lastFigure?_cons, lastFigure?_cons, ih]
  | add hline _ ih => rw [lastFigure?_cons, not_hasFigure_iff.1 hline, Option.or_none, ih]

end Fanout.Labeled

namespace Fanout
open Labeled

/-- Each figure of a reply is the last that can be read from some line on, where a figure may go on over line breaks.
In a settled reply it is the last that a single line has on its own, and lines without such a figure may be put in
anywhere as long as the reply is settled still. -/
theorem Insight.ofLabeledReply_figures (l : Labeled.Label) :
    (∀ text, LastFigure l (onward (rows text)) (l.figure (ofLabeledReply text))) ∧
      (∀ text, Settled l (rows text) → LastFigure l (rows text) (l.figure (ofLabeledReply text))) ∧
      ∀ text text', Settled l (rows text) → Settled l (rows text') → Lengthened l (rows text) (rows text') →
        l.figure (ofLabeledReply text') = l.figure (ofLabeledReply text) := by
  have hsettled (text : String) (h : Settled l (rows text)) :
      (lastFigure? l (rows text)).getD 0 = l.figure (ofLabeledReply text) := by
    rw [figure_ofLabeledReply, lastFigure?_onward h]
  refine ⟨fun text => ?_, fun text h => lastFigure_iff.2 (hsettled text h), ?_⟩
  · rw [lastFigure_iff, figure_ofLabeledReply]
  · intro text text' h h' hlengthened
    rw [← hsettled text h, ← hsettled text' h', hlengthened.lastFigure?_eq]

/-- A reply whose last figure has a line of its own. -/
def settledReply : String := "Load Time Impact:\n 2\nload time  IMPACT : 3.5s"

/-- The same reply with a list behind it. -/
def settledListReply : String := "Load Time Impact:\n 2\nload time  IMPACT : 3.5s\nIssues:\n1. Slow"

theorem settled_settledReply : Settled .loadTimeImpact (rows settledReply) := by
  have hreply : settledReply = String.ofList _ := rfl
  rw [hreply, rows_ofList]
  decide +kernel

theorem settled_settledListReply : Settled .loadTimeImpact (rows settledListReply) := by
  have hreply : settledListReply = String.ofList _ := rfl
  rw [hreply, rows_ofList]
  decide +kernel

theorem lengthened_settledListReply : Lengthened .loadTimeImpact (rows settledReply) (rows settledListReply) := by
  have hreply : settledReply = String.ofList _ := rfl
  have hlistReply : settledListReply = String.ofList _ := rfl
  rw [hreply, hlistReply, rows_ofList, rows_ofList]
  exact .keep _ (.keep _ (.keep _ (.add (by decide +kernel) (.add (by decide +kernel) .nil))))

theorem Insight.ofLabeledReply_figures_settledReply :
    LastFigure .loadTimeImpact (rows settledReply) (ofLabeledReply settledReply).loadTimeImpact ∧
      (ofLabeledReply settledListReply).loadTimeImpact = (ofLabeledReply settledReply).loadTimeImpact :=
  ⟨(ofLabeledReply_figures .loadTimeImpact).2.1 settledReply settled_settledReply,
    (ofLabeledReply_figures .loadTimeImpact).2.2 settledReply settledListReply settled_settledReply
      settled_settledListReply lengthened_settledListReply⟩

/-- The number of an item in the list is taken for a figure that is missing. -/
theorem Insight.not_forall_lastFigure_rows :
    ¬∀ (l : Labeled.Label) (text : String), LastFigure l (rows text) (l.figure (ofLabeledReply text)) := by
  intro h
  have hlast := h .potentialImprovement "Potential Improvement:\n1. Missing cache"
  have hreply : "Potential Improvement:\n1. Missing cache" = String.ofList _ := rfl
  rw [lastFigure_iff, figure_ofLabeledReply, hreply, rows_ofList] at hlast
  revert hlast
  decide +kernel

end Fanout
