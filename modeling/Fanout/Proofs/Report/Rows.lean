import Fanout.Analysis.Finish
import Fanout.Proofs.Json.Numbers
import Fanout.Proofs.Text.Lines
import Fanout.Report.Human

/-!
# The rows of a report for people

* `feeds`, `linesAt` : the line feeds of a text, and the lines that it makes;
* `ScanReport.rows` : what is written for each file, issue, suggestion and recommendation, one row each, and for
  figures, example code and the summary;
* `ScanReport.human_eq` : the report without colors is its rows, each with a line feed behind it;
* `ScanReport.spliced` : the texts that are put into rows as they are given;
* `human_lines` : the lines of a report are its rows just if no such text has a line feed, and each line feed in one
  of them makes a line more;
* `not_forall_line_per_row` : a title with a line feed makes a line of its own, which may read like any other.
-/

namespace Fanout

/-! ## Line feeds -/

/-- The number of line feeds in a text. -/
def feeds (text : String) : Nat := text.toList.count '\n'

/-- The parts of a text between its line feeds. -/
def partsAt (text : String) : List String := (text.toList.splitOn '\n').map String.ofList

/-- The lines of a text in which a line feed stands behind each line. -/
def linesAt (text : String) : List String := (partsAt text).dropLast

@[simp]
theorem feeds_append (a b : String) : feeds (a ++ b) = feeds a + feeds b := by
  rw [feeds, String.toList_append, List.count_append]
  rfl

/-- The line feeds of a text that is given by its characters. -/
theorem feeds_of_chars {text : String} {cs : List Char} (h : text = String.ofList cs) :
    feeds text = cs.count '\n' := by
  rw [h, feeds, String.toList_ofList]

theorem feeds_eq_zero_iff {text : String} : feeds text = 0 ↔ '\n' ∉ text.toList := List.count_eq_zero

theorem length_partsAt (text : String) : (partsAt text).length = feeds text + 1 := by
  have hsplit (cs : List Char) : (cs.splitOn '\n').length = cs.count '\n' + 1 := by
    induction cs with
    | nil => rfl
    | cons c cs ih =>
      rw [List.splitOn_cons_eq_if_modifyHead, List.count_cons]
      split
      · rw [List.length_cons, ih]
      · rw [List.length_modifyHead, ih, Nat.add_zero]
  rw [partsAt, List.length_map, hsplit, feeds]

theorem partsAt_of_feeds {text : String} (h : feeds text = 0) : partsAt text = [text] := by
  rw [partsAt, List.splitOn_eq_singleton (feeds_eq_zero_iff.1 h), List.map_singleton, String.ofList_toList]

theorem partsAt_ended_append (text rest : String) : partsAt (ended text ++ rest) = partsAt text ++ partsAt rest := by
  have hfeed : (ended text ++ rest).toList = text.toList ++ '\n' :: rest.toList := by
    rw [ended, String.append_assoc, String.toList_append, String.toList_append]
    rfl
  rw [partsAt, hfeed, List.splitOn_eq_splitOnP, List.splitOnP_append_cons _ _ (by rfl), List.map_append]
  rfl

/-- Rows that are written one behind the other are cut where they end and at their own line feeds. -/
theorem linesAt_join (rows : List String) : linesAt (String.join (rows.map ended)) = rows.flatMap partsAt := by
  have hparts : partsAt (String.join (rows.map ended)) = rows.flatMap partsAt ++ [""] := by
    induction rows with
    | nil => rfl
    | cons row rows ih =>
      rw [List.map_cons, String.join_cons, partsAt_ended_append, ih, List.flatMap_cons, List.append_assoc]
  rw [linesAt, hparts, List.dropLast_concat]

theorem length_flatMap_partsAt (rows : List String) :
    (rows.flatMap partsAt).length = rows.length + (rows.map feeds).sum := by
  induction rows with
  | nil => rfl
  | cons row rows ih =>
    rw [List.flatMap_cons, List.length_append, ih, length_partsAt, List.length_cons, List.map_cons, List.sum_cons]
    omega

theorem flatMap_partsAt {rows : List String} (h : (rows.map feeds).sum = 0) : rows.flatMap partsAt = rows := by
  induction rows with
  | nil => rfl
  | cons row rows ih =>
    rw [List.map_cons, List.sum_cons, Nat.add_eq_zero_iff] at h
    rw [List.flatMap_cons, partsAt_of_feeds h.1, ih h.2, List.singleton_append]

theorem join_flatMap {α : Type} (xs : List α) (rows : α → List String) :
    String.join ((xs.flatMap rows).map ended) = String.join (xs.map fun x => String.join ((rows x).map ended)) := by
  induction xs with
  | nil => rfl
  | cons x xs ih =>
    rw [List.flatMap_cons, List.map_append, String.join_append, ih, List.map_cons, String.join_cons]

theorem join_singleton (text : String) : String.join [text] = text := by
  rw [String.join_cons, String.join_nil, String.append_empty]

theorem sum_feeds_flatMap {α : Type} (xs : List α) {rows texts : α → List String}
    (h : ∀ x ∈ xs, ((rows x).map feeds).sum = ((texts x).map feeds).sum) :
    ((xs.flatMap rows).map feeds).sum = ((xs.flatMap texts).map feeds).sum := by
  induction xs with
  | nil => rfl
  | cons x xs ih =>
    simp only [List.flatMap_cons, List.map_append, List.sum_append]
    rw [h x List.mem_cons_self, ih fun y hy => h y (List.mem_cons_of_mem _ hy)]

/-! ## Rows -/

/-- What is said of an issue behind its title: its description, unless it is empty or the title again. -/
def Issue.remark? (i : Issue) : Option String :=
  if !i.description.isEmpty && i.description != i.title then some i.description else none

/-- The row of an issue: its badge, where it is, and its title. -/
def Issue.headRow (file : String) (i : Issue) : String :=
  i.severity.icon ++ " " ++ i.severity.badge ++ " " ++ i.placeText file ++ " " ++
    (if i.code.isEmpty then "" else "❲" ++ i.code ++ "❳ ") ++ "— " ++ i.title ++ i.remark?.elim "" (": " ++ ·)

/-- An issue has one row, and one more for its suggestion. -/
def Issue.rows (file : String) (i : Issue) : List String :=
  i.headRow file :: i.suggestion.toList.map ("    ↳ " ++ ·)

/-- A recommendation has one row, and one for each line of its example code. -/
def Recommendation.rows (r : Recommendation) : List String :=
  ("  💡 " ++ r.title ++ ": " ++ r.description) :: (linesOf r.exampleCode).map ("      " ++ ·)

def Metrics.rows (m : Metrics) : List String :=
  ["  Load time: " ++ m.loadTimeText,
    "  Database Load: " ++ m.databaseText ++ " | Network Requests: " ++ m.requestsText ++
      " | Potential Improvement: " ++ m.improvementText]

def FileReport.rows (f : FileReport) : List String :=
  let r := f.result
  if r.issues.isEmpty then ["✔ no issues:" ++ " " ++ f.file]
  else
    r.issues.flatMap (Issue.rows f.file) ++ (if r.hasCritical then ["  " ++ criticalBanner] else []) ++
      r.metrics.rows ++ r.recommendations.flatMap Recommendation.rows

def ScanReport.rows (r : ScanReport) : List String := r.files.flatMap FileReport.rows ++ [r.summary.human]

theorem Issue.ended_human (file : String) (i : Issue) :
    ended (i.human false file) = String.join ((i.rows file).map ended) := by
  have hremark : (if !i.description.isEmpty && i.description != i.title then ": " ++ i.description else "") =
      i.remark?.elim "" (": " ++ ·) := by
    unfold remark?
    split <;> rfl
  have hhead : i.human false file = i.headRow file ++ i.suggestion.elim "" ("\n    ↳ " ++ ·) := by
    unfold human headRow
    rw [← hremark]
    cases i.suggestion <;> rfl
  rw [hhead, rows]
  cases i.suggestion with
  | none =>
    rw [Option.elim_none, String.append_empty]
    exact (join_singleton _).symm
  | some s =>
    show ended (i.headRow file ++ ("\n    ↳ " ++ s)) = String.join [ended (i.headRow file), ended ("    ↳ " ++ s)]
    have hfeed : ("\n    ↳ " : String) = "\n" ++ "    ↳ " := by decide
    rw [String.join_cons, join_singleton, hfeed]
    simp only [ended, String.append_assoc]

theorem Recommendation.human_eq (r : Recommendation) : r.human false = String.join (r.rows.map ended) := by
  rw [rows, List.map_cons, String.join_cons, List.map_map]
  rfl

theorem FileReport.human_eq (f : FileReport) : f.human false = String.join (f.rows.map ended) := by
  unfold human rows
  dsimp only
  split
  · exact (join_singleton _).symm
  · have hissues : String.join (f.result.issues.map fun i => ended (i.human false f.file)) =
        String.join ((f.result.issues.flatMap (Issue.rows f.file)).map ended) := by
      simp only [Issue.ended_human, join_flatMap]
    have hbanner : (if f.result.hasCritical then ended ("  " ++ paint false (bold .red) criticalBanner) else "") =
        String.join ((if f.result.hasCritical then ["  " ++ criticalBanner] else []).map ended) := by
      split
      · exact (join_singleton _).symm
      · rfl
    have hadvice : String.join (f.result.recommendations.map (Recommendation.human false)) =
        String.join ((f.result.recommendations.flatMap Recommendation.rows).map ended) := by
      rw [join_flatMap]
      exact congrArg String.join (List.map_congr_left fun r _ => r.human_eq)
    rw [List.map_append, List.map_append, List.map_append, String.join_append, String.join_append,
      String.join_append, hissues, hbanner, hadvice, Metrics.rows, List.map_cons, List.map_singleton,
      String.join_cons, join_singleton]
    simp only [String.append_assoc]

/-- The report is its rows, one behind the other. -/
theorem ScanReport.human_eq (r : ScanReport) : r.human false = String.join (r.rows.map ended) := by
  have hfiles : r.files.map (FileReport.human false) = r.files.map fun f => String.join (f.rows.map ended) :=
    List.map_congr_left fun f _ => f.human_eq
  rw [human, hfiles, rows, List.map_append, String.join_append, join_flatMap, List.map_singleton, join_singleton]
  rfl

/-! ## Texts in rows -/

/-- The texts that stand in the rows of an issue as they are given. -/
def Issue.spliced (file : String) (i : Issue) : List String :=
  [file, i.code, i.title] ++ i.remark?.toList ++ i.suggestion.toList

def FileReport.spliced (f : FileReport) : List String :=
  if f.result.issues.isEmpty then [f.file]
  else
    f.result.issues.flatMap (Issue.spliced f.file) ++
      f.result.recommendations.flatMap fun r => [r.title, r.description]

def ScanReport.spliced (r : ScanReport) : List String := r.files.flatMap FileReport.spliced

theorem feeds_of_isWord {text : String} (h : Json.IsWord text.toList) : feeds text = 0 :=
  feeds_eq_zero_iff.2 fun hfeed => absurd (h _ hfeed) (by decide)

@[simp]
theorem feeds_plainText (x : Float) : feeds (plainText x) = 0 :=
  feeds_of_isWord (Json.isWord_floatText Json.isWord_plainText x)

@[simp]
theorem feeds_fixedText (x : Float) : feeds (fixedText x) = 0 :=
  feeds_of_isWord (Json.isWord_floatText Json.isWord_fixedText x)

@[simp]
theorem feeds_toString (n : Nat) : feeds (toString n) = 0 := by
  have hdigits : (toString n).toList = digitsOf n := Nat.toList_repr
  refine feeds_of_isWord ?_
  rw [hdigits]
  exact .digitsOf n

theorem Issue.feeds_placeText (file : String) (i : Issue) : feeds (i.placeText file) = feeds file := by
  unfold placeText
  split
  · rw [feeds_append, feeds_append, feeds_toString, show feeds ":" = 0 from feeds_of_chars rfl]
    rfl
  · rfl

theorem Issue.feeds_headRow (file : String) (i : Issue) :
    feeds (i.headRow file) = feeds file + feeds i.code + feeds i.title + (i.remark?.toList.map feeds).sum := by
  have hicon : feeds i.severity.icon = 0 := by cases i.severity <;> exact feeds_of_chars rfl
  have hbadge : feeds i.severity.badge = 0 := by cases i.severity <;> exact feeds_of_chars rfl
  have hcode : feeds (if i.code.isEmpty then "" else "❲" ++ i.code ++ "❳ ") = feeds i.code := by
    split
    · next hempty =>
      rw [String.isEmpty_iff.1 hempty]
    · rw [feeds_append, feeds_append, show feeds "❲" = 0 from feeds_of_chars rfl,
        show feeds "❳ " = 0 from feeds_of_chars rfl]
      omega
  have hremark : feeds (i.remark?.elim "" (": " ++ ·)) = (i.remark?.toList.map feeds).sum := by
    cases i.remark? with
    | none => rfl
    | some text =>
      show feeds (": " ++ text) = [feeds text].sum
      rw [feeds_append, show feeds ": " = 0 from feeds_of_chars rfl, List.sum_singleton, Nat.zero_add]
  simp only [headRow, feeds_append, hicon, hbadge, hcode, hremark, feeds_placeText,
    show feeds " " = 0 from feeds_of_chars rfl, show feeds "— " = 0 from feeds_of_chars rfl, Nat.add_zero,
    Nat.zero_add]

theorem Issue.sum_feeds_rows (file : String) (i : Issue) :
    ((i.rows file).map feeds).sum = ((i.spliced file).map feeds).sum := by
  have hsuggestion : ((i.suggestion.toList.map ("    ↳ " ++ ·)).map feeds).sum =
      (i.suggestion.toList.map feeds).sum := by
    rw [List.map_map]
    refine congrArg List.sum (List.map_congr_left fun s _ => ?_)
    show feeds ("    ↳ " ++ s) = feeds s
    rw [feeds_append, show feeds "    ↳ " = 0 from feeds_of_chars rfl, Nat.zero_add]
  rw [rows, List.map_cons, List.sum_cons, hsuggestion, feeds_headRow, spliced, List.map_append, List.map_append,
    List.sum_append, List.sum_append]
  simp only [List.map_cons, List.map_nil, List.sum_cons, List.sum_nil]
  omega

theorem feeds_of_mem_linesOf {text line : String} (h : line ∈ linesOf text) : feeds line = 0 := by
  obtain ⟨l, hl, rfl⟩ := List.mem_map.1 h
  rw [feeds_eq_zero_iff, String.toList_ofList]
  exact Text.not_mem_of_mem_lines hl

theorem Recommendation.sum_feeds_rows (r : Recommendation) :
    (r.rows.map feeds).sum = ([r.title, r.description].map feeds).sum := by
  have hcode : (((linesOf r.exampleCode).map ("      " ++ ·)).map feeds).sum = 0 := by
    rw [List.sum_eq_zero_iff_forall_eq_nat, List.map_map]
    refine List.forall_mem_map.2 fun line hline => ?_
    show feeds ("      " ++ line) = 0
    rw [feeds_append, feeds_of_mem_linesOf hline]
    exact feeds_of_chars rfl
  rw [rows, List.map_cons, List.sum_cons, hcode]
  simp only [feeds_append, show feeds "  💡 " = 0 from feeds_of_chars rfl, show feeds ": " = 0 from feeds_of_chars rfl,
    List.map_cons, List.map_nil, List.sum_cons, List.sum_nil, Nat.add_zero, Nat.zero_add]

theorem Metrics.sum_feeds_rows (m : Metrics) : (m.rows.map feeds).sum = 0 := by
  simp only [rows, loadTimeText, databaseText, requestsText, improvementText, List.map_cons, List.map_nil,
    List.sum_cons, List.sum_nil, feeds_append, feeds_fixedText, feeds_plainText,
    show feeds "  Load time: " = 0 from feeds_of_chars rfl, show feeds "s current, " = 0 from feeds_of_chars rfl,
    show feeds "s with changes" = 0 from feeds_of_chars rfl,
    show feeds "  Database Load: " = 0 from feeds_of_chars rfl,
    show feeds "x higher than necessary" = 0 from feeds_of_chars rfl,
    show feeds " | Network Requests: " = 0 from feeds_of_chars rfl,
    show feeds "+ per page load" = 0 from feeds_of_chars rfl,
    show feeds " | Potential Improvement: " = 0 from feeds_of_chars rfl, show feeds "%" = 0 from feeds_of_chars rfl,
    Nat.add_zero]

theorem Summary.feeds_human (s : Summary) : feeds s.human = 0 := by
  show feeds ("— Summary — critical=" ++ toString s.critical ++ " warnings=" ++ toString s.warnings ++
    " infos=" ++ toString s.infos ++ " files=" ++ toString s.files) = 0
  simp only [feeds_append, feeds_toString, show feeds "— Summary — critical=" = 0 from feeds_of_chars rfl,
    show feeds " warnings=" = 0 from feeds_of_chars rfl, show feeds " infos=" = 0 from feeds_of_chars rfl,
    show feeds " files=" = 0 from feeds_of_chars rfl]

theorem feeds_criticalBanner : feeds criticalBanner = 0 := feeds_of_chars rfl

/-- All line feeds in the rows of a file come from the texts that are put into them. -/
theorem FileReport.sum_feeds_rows (f : FileReport) : (f.rows.map feeds).sum = (f.spliced.map feeds).sum := by
  unfold rows spliced
  dsimp only
  split
  · simp only [List.map_cons, List.map_nil, List.sum_cons, List.sum_nil, feeds_append,
      show feeds "✔ no issues:" = 0 from feeds_of_chars rfl, show feeds " " = 0 from feeds_of_chars rfl, Nat.zero_add]
  · have hbanner : ((if f.result.hasCritical then ["  " ++ criticalBanner] else []).map feeds).sum = 0 := by
      split
      · simp only [List.map_cons, List.map_nil, List.sum_cons, List.sum_nil, feeds_append, feeds_criticalBanner,
          show feeds "  " = 0 from feeds_of_chars rfl, Nat.add_zero]
      · rfl
    simp only [List.map_append, List.sum_append, hbanner, Metrics.sum_feeds_rows]
    rw [sum_feeds_flatMap f.result.issues fun i _ => i.sum_feeds_rows f.file,
      sum_feeds_flatMap f.result.recommendations fun r _ => r.sum_feeds_rows]
    omega

theorem ScanReport.sum_feeds_rows (r : ScanReport) : (r.rows.map feeds).sum = (r.spliced.map feeds).sum := by
  rw [rows, List.map_append, List.sum_append, sum_feeds_flatMap r.files fun f _ => f.sum_feeds_rows]
  show _ + (feeds r.summary.human + 0) = _
  rw [Summary.feeds_human]
  rfl

/-! ## Counting rows -/

/-- One row for a file without issues. Else one for each issue, suggestion and recommendation and for each line of
example code, two for the figures, and one for the banner if there is a critical issue. -/
def FileReport.rowCount (f : FileReport) : Nat :=
  let r := f.result
  if r.issues.isEmpty then 1
  else
    r.issues.length + r.issues.countP (·.suggestion.isSome) + (if r.hasCritical then 1 else 0) + 2 +
      (r.recommendations.map fun a => 1 + (linesOf a.exampleCode).length).sum

theorem FileReport.length_rows (f : FileReport) : f.rows.length = f.rowCount := by
  have hissues (issues : List Issue) :
      (issues.flatMap (Issue.rows f.file)).length = issues.length + issues.countP (·.suggestion.isSome) := by
    induction issues with
    | nil => rfl
    | cons i issues ih =>
      rw [List.flatMap_cons, List.length_append, ih, Issue.rows, List.length_cons, List.length_map, List.length_cons,
        List.countP_cons]
      cases i.suggestion <;> simp <;> omega
  have hadvice (advice : List Recommendation) :
      (advice.flatMap Recommendation.rows).length = (advice.map fun a => 1 + (linesOf a.exampleCode).length).sum := by
    rw [List.length_flatMap]
    refine congrArg List.sum (List.map_congr_left fun a _ => ?_)
    rw [Recommendation.rows, List.length_cons, List.length_map, Nat.add_comm]
  unfold rows rowCount
  dsimp only
  split
  · rfl
  · rw [List.length_append, List.length_append, List.length_append, hissues, hadvice]
    split <;> rfl

theorem ScanReport.length_rows (r : ScanReport) : r.rows.length = (r.files.map FileReport.rowCount).sum + 1 := by
  rw [rows, List.length_append, List.length_flatMap, List.length_singleton]
  simp only [FileReport.length_rows]

/-! ## Lines -/

theorem ScanReport.linesAt_human (r : ScanReport) : linesAt (r.human false) = r.rows.flatMap partsAt := by
  rw [human_eq, linesAt_join]

theorem ScanReport.length_linesAt_human (r : ScanReport) :
    (linesAt (r.human false)).length = r.rows.length + (r.spliced.map feeds).sum := by
  rw [linesAt_human, length_flatMap_partsAt, sum_feeds_rows]

theorem sum_feeds_eq_zero_iff {texts : List String} :
    (texts.map feeds).sum = 0 ↔ ∀ text ∈ texts, '\n' ∉ text.toList := by
  rw [List.sum_eq_zero_iff_forall_eq_nat, List.forall_mem_map]
  simp only [feeds_eq_zero_iff]

/-- A report has a row for each thing that it shows, and its lines are what the rows are cut into at line feeds. There
are as many lines as rows just if no text that is put into a row has a line feed, and then the lines are the rows. -/
theorem human_lines (r : ScanReport) :
    r.rows.length = (r.files.map FileReport.rowCount).sum + 1 ∧
    linesAt (r.human false) = r.rows.flatMap partsAt ∧
    (linesAt (r.human false)).length = r.rows.length + (r.spliced.map feeds).sum ∧
    ((linesAt (r.human false)).length = r.rows.length ↔ ∀ text ∈ r.spliced, '\n' ∉ text.toList) ∧
    ((∀ text ∈ r.spliced, '\n' ∉ text.toList) → linesAt (r.human false) = r.rows) := by
  refine ⟨r.length_rows, r.linesAt_human, r.length_linesAt_human, ?_, fun h => ?_⟩
  · rw [← sum_feeds_eq_zero_iff, r.length_linesAt_human]
    omega
  · rw [r.linesAt_human]
    refine flatMap_partsAt ?_
    rw [r.sum_feeds_rows]
    exact sum_feeds_eq_zero_iff.2 h

/-- A file with a critical issue that has all there may be, and one without issues. -/
def twoFileReport : ScanReport :=
  .ofFiles
    [⟨"a.ts",
      [{ severity := .critical, code := "N", title := "Loop", description := "Reads in turn", line := some 3
         suggestion := some "Batch it" }],
      .zero, [⟨"Fix Loop", "Batch it", "\nconst a = 1;\r\nload(a);"⟩]⟩,
    ⟨"b.ts", [], .zero, []⟩]

theorem human_lines_twoFileReport :
    (∀ text ∈ twoFileReport.spliced, '\n' ∉ text.toList) ∧
      linesAt (twoFileReport.human false) = twoFileReport.rows ∧ twoFileReport.rows.length = 11 := by
  have hplain : ∀ text ∈ twoFileReport.spliced, '\n' ∉ text.toList := by decide
  obtain ⟨hlength, -, -, -, hlines⟩ := human_lines twoFileReport
  exact ⟨hplain, hlines hplain, hlength⟩

/-- The insight of a reply whose issue has a title that goes on behind a line feed. -/
def forgedInsight : Insight := { additionalIssues := [{ title := "Slow\n✔ no issues: b.ts" }] }

def forgedReport : ScanReport := .ofFiles [⟨"a.ts", finish (.matched []) (some forgedInsight) .perIssue⟩]

/-- A report may have more lines than rows, and a title may read like the line of a file that was never looked at. -/
theorem not_forall_line_per_row :
    (¬ ∀ r : ScanReport, (linesAt (r.human false)).length = (r.files.map FileReport.rowCount).sum + 1) ∧
      "✔ no issues: b.ts" ∈ linesAt (forgedReport.human false) ∧ ∀ f ∈ forgedReport.files, f.file ≠ "b.ts" := by
  refine ⟨fun h => ?_, ?_, by decide⟩
  · have htitle : "Slow\n✔ no issues: b.ts" ∈ forgedReport.spliced := by
      simp [forgedReport, ScanReport.ofFiles, ScanReport.spliced, FileReport.spliced, finish, merge, forgedInsight,
        Issue.spliced]
    have hlength := forgedReport.length_linesAt_human
    rw [h, forgedReport.length_rows] at hlength
    have hsum : (forgedReport.spliced.map feeds).sum = 0 := by omega
    exact absurd (sum_feeds_eq_zero_iff.1 hsum _ htitle) (by decide)
  · have hrow : "◆ ⟦info⟧ a.ts — Slow\n✔ no issues: b.ts" ∈ forgedReport.rows := by
      have hhead : Issue.headRow "a.ts" { title := "Slow\n✔ no issues: b.ts" } =
          "◆ ⟦info⟧ a.ts — Slow\n✔ no issues: b.ts" := by decide
      rw [← hhead]
      simp [forgedReport, ScanReport.ofFiles, ScanReport.rows, FileReport.rows, finish, merge, forgedInsight,
        Issue.rows]
    rw [forgedReport.linesAt_human]
    exact List.mem_flatMap.2 ⟨_, hrow, by decide⟩

end Fanout
