import Fanout.Proofs.Json.Numbers
import Fanout.Proofs.Text.Lines
import Fanout.Report.Output

/-!
# Colors are only markup

* `Text.unpainted` : a text without its color sequences. A sequence is an escape, a bracket, digits and
  semicolons, and an `m`;
* `Escapeless` : a text in which no sequence can begin;
* `Shows` : a text that is another one once its sequences are deleted, whatever stands behind it. What is free of
  escapes shows itself (`Escapeless.shows`), what is painted shows what it was (`Escapeless.shows_paint`), and
  parts one behind the other show their parts (`Shows.append`);
* `color_is_markup` : a report in colors shows the report without.

All sequences of a report begin with an escape of `control`, so a text that looks like the tail of one is kept.
-/

namespace Fanout

namespace Text

/-! ## Sequences -/

/-- A character between the bracket of a sequence and its end. -/
def isCodeChar (c : Char) : Bool := ('0' ≤ c && c ≤ '9') || c == ';'

/-- What stands behind the sequence that a text begins with. -/
def behindSequence? : List Char → Option (List Char)
  | '\x1b' :: '[' :: cs =>
    match cs.dropWhile isCodeChar with
    | 'm' :: rest => some rest
    | _ => none
  | _ => none

theorem length_behindSequence?_lt {cs rest : List Char} (h : behindSequence? cs = some rest) :
    rest.length < cs.length := by
  unfold behindSequence? at h
  split at h
  · rename_i code
    split at h
    · rename_i tail htail
      cases h
      have hle := (List.dropWhile_sublist isCodeChar (l := code)).length_le
      rw [htail] at hle
      simp only [List.length_cons] at hle ⊢
      omega
    · cases h
  · cases h

/-- A text without its color sequences. -/
def unpainted : List Char → List Char
  | [] => []
  | c :: cs =>
    match _ : behindSequence? (c :: cs) with
    | some rest => unpainted rest
    | none => c :: unpainted cs
termination_by cs => cs.length
decreasing_by
  · exact length_behindSequence?_lt ‹_›
  · exact Nat.lt_succ_self _

theorem unpainted_of_sequence {cs rest : List Char} (h : behindSequence? cs = some rest) :
    unpainted cs = unpainted rest := by
  cases cs with
  | nil => cases h
  | cons c cs =>
    rw [unpainted]
    split
    · rename_i rest' h'
      rw [Option.some.inj (h.symm.trans h')]
    · rename_i h'
      rw [h'] at h
      cases h

theorem unpainted_cons {c : Char} (h : c ≠ '\x1b') (cs : List Char) : unpainted (c :: cs) = c :: unpainted cs := by
  have hnone : behindSequence? (c :: cs) = none := by
    unfold behindSequence?
    split
    · rename_i heq
      exact absurd (List.cons.inj heq).1 h
    · rfl
  rw [unpainted]
  split
  · rename_i h'
    rw [hnone] at h'
    cases h'
  · rfl

theorem unpainted_append {cs : List Char} (h : '\x1b' ∉ cs) (rest : List Char) :
    unpainted (cs ++ rest) = cs ++ unpainted rest := by
  induction cs with
  | nil => rfl
  | cons c cs ih =>
    rw [List.mem_cons, not_or] at h
    rw [List.cons_append, unpainted_cons (Ne.symm h.1), ih h.2, List.cons_append]

theorem unpainted_sequence {code : List Char} (h : ∀ c ∈ code, isCodeChar c = true) (rest : List Char) :
    unpainted ('\x1b' :: '[' :: (code ++ 'm' :: rest)) = unpainted rest := by
  have hdrop : (code ++ 'm' :: rest).dropWhile isCodeChar = 'm' :: rest := by
    rw [List.dropWhile_append_of_pos h]
    exact List.dropWhile_cons_of_neg (by decide)
  refine unpainted_of_sequence ?_
  simp only [behindSequence?, hdrop]

/-- What looks like a sequence after an escape has gone stays. -/
example : unpainted "\x1b[1;31m[0m;\x1b[39m1m".toList = "[0m;1m".toList := by cbv

end Text

open Text

/-! ## What a text shows -/

/-- A text without an escape. -/
def Escapeless (text : String) : Prop := '\x1b' ∉ text.toList

instance (text : String) : Decidable (Escapeless text) := inferInstanceAs (Decidable (_ ∉ _))

/-- A text that is another one, which has no escapes, once its sequences are deleted. -/
structure Shows (painted text : String) : Prop where
  unpainted_append (rest : List Char) : unpainted (painted.toList ++ rest) = text.toList ++ unpainted rest
  escapeless : Escapeless text

@[simp]
theorem escapeless_append {a b : String} : Escapeless (a ++ b) ↔ Escapeless a ∧ Escapeless b := by
  simp only [Escapeless, String.toList_append, List.mem_append, not_or]

namespace Escapeless
variable {text : String}

theorem shows (h : Escapeless text) : Shows text text := ⟨Text.unpainted_append h, h⟩

/-- A line of a text holds no characters but those of the text. -/
theorem of_mem_linesOf (h : Escapeless text) {line : String} (hline : line ∈ linesOf text) : Escapeless line := by
  obtain ⟨l, hl, rfl⟩ := List.mem_map.1 hline
  intro hc
  rw [String.toList_ofList] at hc
  exact h (mem_of_mem_lines hl hc)

theorem headline (h : Escapeless text) : Escapeless (headline text) := by
  unfold Fanout.headline
  cases hlines : linesOf text with
  | nil => exact List.not_mem_nil
  | cons line lines =>
    refine h.of_mem_linesOf ?_
    rw [hlines]
    exact List.mem_cons_self

end Escapeless

namespace Shows

theorem unpainted_eq {painted text : String} (h : Shows painted text) : unpainted painted.toList = text.toList := by
  have hend := h.unpainted_append []
  rwa [List.append_nil, unpainted, List.append_nil] at hend

theorem append {a b c d : String} (h : Shows a b) (h' : Shows c d) : Shows (a ++ c) (b ++ d) where
  unpainted_append rest := by
    rw [String.toList_append, List.append_assoc, h.unpainted_append, h'.unpainted_append, String.toList_append,
      List.append_assoc]
  escapeless := escapeless_append.2 ⟨h.escapeless, h'.escapeless⟩

theorem ended {a b : String} (h : Shows a b) : Shows (ended a) (ended b) :=
  h.append (Escapeless.shows (by decide))

theorem join {α : Type} {painted text : α → String} {xs : List α} (h : ∀ x ∈ xs, Shows (painted x) (text x)) :
    Shows (String.join (xs.map painted)) (String.join (xs.map text)) := by
  induction xs with
  | nil => exact Escapeless.shows List.not_mem_nil
  | cons x xs ih =>
    rw [List.map_cons, List.map_cons, String.join_cons, String.join_cons]
    exact (h x List.mem_cons_self).append (ih fun y hy => h y (List.mem_cons_of_mem _ hy))

/-- A sequence shows nothing. -/
theorem control {code : String} (h : code.toList.all isCodeChar) : Shows (control code) "" where
  unpainted_append rest := by
    have hcontrol : (Fanout.control code).toList = '\x1b' :: '[' :: (code.toList ++ ['m']) := by
      simp [Fanout.control]
    rw [hcontrol, List.cons_append, List.cons_append, List.append_assoc, List.singleton_append,
      unpainted_sequence (List.all_eq_true.1 h)]
    rfl
  escapeless := by decide

/-- A text between two sequences shows what it shows alone. -/
theorem between {a b : String} (h : Shows a b) {before behind : String}
    (hbefore : before.toList.all isCodeChar) (hbehind : behind.toList.all isCodeChar) :
    Shows (Fanout.control before ++ a ++ Fanout.control behind) b := by
  have hwhole := ((control hbefore).append h).append (control hbehind)
  rwa [String.empty_append, String.append_empty] at hwhole

end Shows

theorem Color.all_isCodeChar_code (c : Color) : c.code.toList.all isCodeChar := by
  cases c <;> decide

/-- Whatever the style, a painted text shows the text. -/
theorem Escapeless.shows_paint {text : String} (h : Escapeless text) (style : Style) :
    Shows (paint true style text) (paint false style text) := by
  obtain ⟨color, bold⟩ := style
  have hcolored : Shows (paint true ⟨color, false⟩ text) text := by
    cases color with
    | none => exact h.shows
    | some c => exact h.shows.between c.all_isCodeChar_code (by decide)
  cases bold with
  | false => exact hcolored
  | true => exact hcolored.between (by decide) (by decide)

/-! ## Texts of numbers -/

theorem escapeless_of_isWord {text : String} (h : Json.IsWord text.toList) : Escapeless text := fun hescape =>
  absurd (h _ hescape) (by decide)

@[simp]
theorem escapeless_plainText (x : Float) : Escapeless (plainText x) :=
  escapeless_of_isWord (Json.isWord_floatText Json.isWord_plainText x)

@[simp]
theorem escapeless_fixedText (x : Float) : Escapeless (fixedText x) :=
  escapeless_of_isWord (Json.isWord_floatText Json.isWord_fixedText x)

@[simp]
theorem escapeless_toString (n : Nat) : Escapeless (toString n) := by
  have hdigits : (toString n).toList = digitsOf n := Nat.toList_repr
  refine escapeless_of_isWord ?_
  rw [hdigits]
  exact .digitsOf n

/-! ## Reports of files -/

/-- What is shown of an issue has no escapes. -/
structure Issue.NoEscapes (i : Issue) : Prop where
  code : Escapeless i.code
  title : Escapeless i.title
  description : Escapeless i.description
  suggestion : ∀ s, i.suggestion = some s → Escapeless s

structure Recommendation.NoEscapes (r : Recommendation) : Prop where
  title : Escapeless r.title
  description : Escapeless r.description
  exampleCode : Escapeless r.exampleCode

structure FileReport.NoEscapes (f : FileReport) : Prop where
  file : Escapeless f.file
  issues : ∀ i ∈ f.result.issues, i.NoEscapes
  recommendations : ∀ r ∈ f.result.recommendations, r.NoEscapes

theorem Issue.escapeless_placeText {file : String} (h : Escapeless file) (i : Issue) :
    Escapeless (i.placeText file) := by
  unfold placeText
  split
  · simp only [escapeless_append, h, escapeless_toString, and_true, true_and]
    decide
  · exact h

/-- Only the signs and the place of an issue are painted. -/
theorem Issue.NoEscapes.shows_human {i : Issue} (h : i.NoEscapes) {file : String} (hfile : Escapeless file) :
    Shows (i.human true file) (i.human false file) := by
  have hicon : Escapeless i.severity.icon := by cases i.severity <;> decide
  have hbadge : Escapeless i.severity.badge := by cases i.severity <;> decide
  have hblank : Shows " " " " := Escapeless.shows (by decide)
  have hcode : Escapeless (if i.code.isEmpty then "" else "❲" ++ (i.code ++ "❳ ")) := by
    split
    · decide
    · simp only [escapeless_append, h.code, true_and]
      decide
  have hdescription : Escapeless
      (if !i.description.isEmpty && i.description != i.title then ": " ++ i.description else "") := by
    split
    · simp only [escapeless_append, h.description, and_true]
      decide
    · decide
  have hdash : Escapeless "— " := by decide
  unfold human
  dsimp only
  simp only [String.append_assoc]
  refine (hicon.shows_paint _).append (hblank.append ?_)
  refine (hbadge.shows_paint _).append (hblank.append ?_)
  refine ((escapeless_placeText hfile i).shows_paint _).append (hblank.append (Escapeless.shows ?_))
  simp only [escapeless_append]
  refine ⟨hcode, hdash, h.title, hdescription, ?_⟩
  cases hs : i.suggestion with
  | none => decide
  | some s =>
    simp only [escapeless_append, h.suggestion s hs, and_true]
    decide

theorem Recommendation.NoEscapes.shows_human {r : Recommendation} (h : r.NoEscapes) :
    Shows (r.human true) (r.human false) := by
  have hbulb : Shows "  💡 " "  💡 " := Escapeless.shows (by decide)
  have hcolon : Shows ": " ": " := Escapeless.shows (by decide)
  have hindent : Shows "      " "      " := Escapeless.shows (by decide)
  unfold human
  refine Shows.append (Shows.ended ?_) (Shows.join fun line hline => Shows.ended ?_)
  · exact ((hbulb.append (h.title.shows_paint _)).append hcolon).append h.description.shows
  · exact hindent.append ((h.exampleCode.of_mem_linesOf hline).shows_paint _)

theorem Metrics.escapeless_loadTimeText (m : Metrics) : Escapeless m.loadTimeText := by
  simp only [loadTimeText, escapeless_append, escapeless_fixedText, true_and]
  decide

theorem Metrics.escapeless_figures (m : Metrics) :
    Escapeless ("  Database Load: " ++ m.databaseText ++ " | Network Requests: " ++ m.requestsText ++
      " | Potential Improvement: " ++ m.improvementText) := by
  simp only [databaseText, requestsText, improvementText, escapeless_append, escapeless_fixedText,
    escapeless_plainText, true_and, and_assoc]
  decide

theorem FileReport.NoEscapes.shows_human {f : FileReport} (h : f.NoEscapes) :
    Shows (f.human true) (f.human false) := by
  have hclean : Escapeless "✔ no issues:" := by decide
  have hbanner : Escapeless criticalBanner := by simp [Escapeless, criticalBanner]
  have hblank : Shows " " " " := Escapeless.shows (by decide)
  have hindent : Shows "  " "  " := Escapeless.shows (by decide)
  have hload : Shows "  Load time: " "  Load time: " := Escapeless.shows (by decide)
  unfold human
  dsimp only
  split
  · exact (((hclean.shows_paint _).append hblank).append h.file.shows).ended
  · refine Shows.append (Shows.append (Shows.append (Shows.append ?_ ?_) ?_) ?_) ?_
    · exact .join fun i hi => ((h.issues i hi).shows_human h.file).ended
    · split
      · exact (hindent.append (hbanner.shows_paint _)).ended
      · exact Escapeless.shows (by decide)
    · exact (hload.append (Metrics.escapeless_loadTimeText _).shows).ended
    · exact (Metrics.escapeless_figures _).shows.ended
    · exact .join fun r hr => (h.recommendations r hr).shows_human

theorem Summary.escapeless_human (s : Summary) : Escapeless s.human := by
  show Escapeless ("— Summary — critical=" ++ toString s.critical ++ " warnings=" ++ toString s.warnings ++
    " infos=" ++ toString s.infos ++ " files=" ++ toString s.files)
  simp only [escapeless_append, escapeless_toString, and_true]
  decide

theorem ScanReport.shows_human {r : ScanReport} (h : ∀ f ∈ r.files, f.NoEscapes) :
    Shows (r.human true) (r.human false) :=
  .append (.join fun f hf => (h f hf).shows_human) ((r.summary.escapeless_human).shows_paint _).ended

/-! ## Reports of reviews -/

/-- What is shown of a review has no escapes. -/
structure ReviewReport.NoEscapes (r : ReviewReport) : Prop where
  comments : ∀ c ∈ r.comments, Escapeless c.path ∧ Escapeless c.body
  failures : ∀ f ∈ r.failures, Escapeless f

theorem Comment.shows_human {c : Comment} (hpath : Escapeless c.path) (hbody : Escapeless c.body) (dryRun : Bool) :
    Shows (c.human true dryRun) (c.human false dryRun) := by
  have hverb : Escapeless (if dryRun then "planned:" else "comment:") := by cases dryRun <;> decide
  have hrest : Escapeless (" " ++ (c.path ++ (":" ++ (toString c.line.toNat ++ (" " ++ headline c.body))))) := by
    simp only [escapeless_append, hpath, escapeless_toString, hbody.headline, and_true, true_and]
    decide
  have hshows := ((hverb.shows_paint (bold .cyan)).append hrest.shows).ended
  simp only [← String.append_assoc] at hshows
  exact hshows

theorem ReviewReport.escapeless_summaryText (r : ReviewReport) : Escapeless r.summaryText := by
  show Escapeless (("— Summary — scanned=" ++ toString r.filesScanned ++ " skipped=" ++ toString r.filesSkipped ++
    " posted=" ++ toString r.commentsPosted ++ " ") ++ ("failures=" ++ toString r.failures.length))
  simp only [escapeless_append, escapeless_toString, and_true]
  decide

theorem ReviewReport.NoEscapes.shows_human {r : ReviewReport} (h : r.NoEscapes) :
    Shows (r.human true) (r.human false) := by
  have hfailed : Escapeless "failed:" := by decide
  have hblank : Shows " " " " := Escapeless.shows (by decide)
  unfold human
  refine Shows.append (Shows.append ?_ ?_) ?_
  · exact .join fun c hc => Comment.shows_human (h.comments c hc).1 (h.comments c hc).2 _
  · exact .join fun f hf => (((hfailed.shows_paint _).append hblank).append (h.failures f hf).shows).ended
  · exact (r.escapeless_summaryText.shows_paint _).ended

/-! ## Both reports -/

/-- Where no string of a report has an escape, the report in colors is the one without once its sequences are
deleted, and the one without has no escape. That is so for the report of a scan and for that of a review. -/
theorem color_is_markup :
    (∀ r : ScanReport, (∀ f ∈ r.files, f.NoEscapes) →
      unpainted (r.human true).toList = (r.human false).toList ∧ '\x1b' ∉ (r.human false).toList) ∧
    ∀ r : ReviewReport, r.NoEscapes →
      unpainted (r.human true).toList = (r.human false).toList ∧ '\x1b' ∉ (r.human false).toList := by
  constructor
  · intro r h
    have hshows := ScanReport.shows_human h
    exact ⟨hshows.unpainted_eq, hshows.escapeless⟩
  · intro r h
    have hshows := h.shows_human
    exact ⟨hshows.unpainted_eq, hshows.escapeless⟩

/-- A report whose strings look like tails of sequences. -/
def bracketReport : ScanReport :=
  .ofFiles [⟨"[1m.ts",
    [{ severity := .critical, code := "39m", title := "[0m", description := ";31m", suggestion := some "m" }],
    .zero, [⟨"Fix [0m", "[39m", "[90m\n0m"⟩]⟩]

def bracketReview : ReviewReport where
  comments := [⟨"[1m.ts", 3, "[36m\n0m"⟩]
  failures := ["[31m"]

theorem color_is_markup_bracketReport :
    ((∀ f ∈ bracketReport.files, f.NoEscapes) ∧ '\x1b' ∈ (bracketReport.human true).toList ∧
      unpainted (bracketReport.human true).toList = (bracketReport.human false).toList) ∧
    bracketReview.NoEscapes ∧ '\x1b' ∈ (bracketReview.human true).toList ∧
      unpainted (bracketReview.human true).toList = (bracketReview.human false).toList := by
  have hscan : ∀ f ∈ bracketReport.files, f.NoEscapes := by
    intro f hf
    obtain rfl := List.mem_singleton.1 hf
    refine ⟨by decide, fun i hi => ?_, fun r hr => ?_⟩
    · obtain rfl := List.mem_singleton.1 hi
      refine ⟨by decide, by decide, by decide, fun s hs => ?_⟩
      obtain rfl := Option.some.inj hs
      decide
    · obtain rfl := List.mem_singleton.1 hr
      exact ⟨by decide, by decide, by decide⟩
  have hpainted : '\x1b' ∈ (bracketReport.human true).toList := by
    rw [ScanReport.human, String.toList_append]
    exact List.mem_append_right _ (by decide +kernel)
  have hreview : bracketReview.NoEscapes := ⟨by decide, by decide⟩
  obtain ⟨hscans, hreviews⟩ := color_is_markup
  exact ⟨⟨hscan, hpainted, (hscans _ hscan).1⟩, hreview, by decide +kernel, (hreviews _ hreview).1⟩

end Fanout
