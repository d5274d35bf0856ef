import Fanout.Grammar.Reading
import Fanout.Program
import Mathlib.Algebra.Ring.Nat
import Mathlib.Data.List.TFAE
import Mathlib.Tactic.TFAE

/-!
# The verdict of a report

* `Summary.count_foldl_add` : what a walk over issues adds to the figure for a severity;
* `Tallies` : the figures of a summary held against the files that it is of;
* `ScanReport.HasBanner`, `ScanReport.HasNotice` : a report warns of a file, in the place that it has for that;
* `analysis` : what an analysis comes to before it is printed, and `runAnalyze_eq`;
* `summary_agrees` : the summary of any files tallies whatever their order, and it counts a critical issue just if some
  file has one, a report warns of some file, or the command ends with 1.
-/

namespace Fanout

/-! ## Totals -/

/-- The issues of all files. -/
def issuesOf (files : List FileReport) : List Issue := files.flatMap (·.result.issues)

theorem countOf_issuesOf (severity : Severity) (files : List FileReport) :
    countOf severity (issuesOf files) = (files.map fun f => f.result.count severity).sum := by
  rw [countOf, issuesOf, List.countP_flatMap]
  rfl

/-- Each issue has one of three severities. -/
theorem countOf_add (issues : List Issue) :
    countOf .critical issues + countOf .warning issues + countOf .info issues = issues.length := by
  induction issues with
  | nil => rfl
  | cons i issues ih =>
    unfold countOf at ih ⊢
    simp only [List.countP_cons, List.length_cons]
    cases i.severity <;> simp <;> omega

theorem countOf_critical_pos_iff {issues : List Issue} : 0 < countOf .critical issues ↔ anyCritical issues = true := by
  rw [countOf, List.countP_pos_iff, anyCritical, List.any_eq_true]

namespace Summary

/-- The figure for a severity. -/
def count (s : Summary) : Severity → Nat
  | .critical => s.critical
  | .warning => s.warnings
  | .info => s.infos

theorem eq_of_count {s s' : Summary} (hfiles : s.files = s'.files)
    (hcount : ∀ severity, s.count severity = s'.count severity) : s = s' := by
  obtain ⟨critical, warnings, infos, files⟩ := s
  obtain ⟨critical', warnings', infos', files'⟩ := s'
  obtain rfl : files = files' := hfiles
  obtain rfl : critical = critical' := hcount .critical
  obtain rfl : warnings = warnings' := hcount .warning
  obtain rfl : infos = infos' := hcount .info
  rfl

/-- An issue counts under its own severity and under no other. -/
theorem count_add (s : Summary) (i : Issue) (severity : Severity) :
    (s.add i).count severity = s.count severity + countOf severity [i] := by
  unfold add countOf
  rw [List.countP_singleton]
  cases i.severity <;> cases severity <;> rfl

theorem files_add (s : Summary) (i : Issue) : (s.add i).files = s.files := by
  unfold add
  cases i.severity <;> rfl

theorem count_foldl_add (issues : List Issue) (s : Summary) (severity : Severity) :
    (issues.foldl add s).count severity = s.count severity + countOf severity issues := by
  induction issues generalizing s with
  | nil => rfl
  | cons i issues ih =>
    have hcons : countOf severity ([i] ++ issues) = countOf severity [i] + countOf severity issues :=
      List.countP_append
    rw [List.singleton_append] at hcons
    rw [List.foldl_cons, ih, count_add, hcons, Nat.add_assoc]

theorem files_foldl_add (issues : List Issue) (s : Summary) : (issues.foldl add s).files = s.files := by
  induction issues generalizing s with
  | nil => rfl
  | cons i issues ih => rw [List.foldl_cons, ih, files_add]

/-- The loop over files and their issues is one walk over all issues. -/
theorem ofFiles_eq (files : List FileReport) :
    ofFiles files = (issuesOf files).foldl add { files := files.length } := by
  rw [ofFiles, issuesOf, List.foldl_flatMap]

theorem count_ofFiles (files : List FileReport) (severity : Severity) :
    (ofFiles files).count severity = countOf severity (issuesOf files) := by
  rw [ofFiles_eq, count_foldl_add]
  cases severity <;> exact Nat.zero_add _

theorem files_ofFiles (files : List FileReport) : (ofFiles files).files = files.length := by
  rw [ofFiles_eq, files_foldl_add]

end Summary

/-- The figures of a summary, each as a sum over the files. -/
structure Tallies (s : Summary) (files : List FileReport) : Prop where
  count : s.files = files.length
  critical : s.critical = (files.map fun f => f.result.count .critical).sum
  warnings : s.warnings = (files.map fun f => f.result.count .warning).sum
  infos : s.infos = (files.map fun f => f.result.count .info).sum
  /-- Each issue is in one of the three. -/
  total : s.critical + s.warnings + s.infos = (files.map fun f => f.result.issues.length).sum

theorem tallies_ofFiles (files : List FileReport) : Tallies (.ofFiles files) files where
  count := Summary.files_ofFiles files
  critical := (Summary.count_ofFiles files .critical).trans (countOf_issuesOf _ files)
  warnings := (Summary.count_ofFiles files .warning).trans (countOf_issuesOf _ files)
  infos := (Summary.count_ofFiles files .info).trans (countOf_issuesOf _ files)
  total := by
    have hcount := Summary.count_ofFiles files
    show (Summary.ofFiles files).count .critical + (Summary.ofFiles files).count .warning +
      (Summary.ofFiles files).count .info = _
    rw [hcount, hcount, hcount, countOf_add, issuesOf, List.length_flatMap]

theorem Summary.ofFiles_perm {files files' : List FileReport} (h : files.Perm files') :
    Summary.ofFiles files = Summary.ofFiles files' := by
  refine eq_of_count ?_ fun severity => ?_
  · rw [files_ofFiles, files_ofFiles, h.length_eq]
  · rw [count_ofFiles, count_ofFiles]
    exact (h.flatMap_right _).countP_eq _

theorem critical_pos_iff {files : List FileReport} :
    0 < (Summary.ofFiles files).critical ↔ ∃ f ∈ files, f.result.hasCritical = true := by
  show 0 < (Summary.ofFiles files).count .critical ↔ _
  rw [Summary.count_ofFiles, countOf_critical_pos_iff, issuesOf, anyCritical, List.any_flatMap, List.any_eq_true]
  rfl

/-! ## Warnings

A report shows files one behind the other, and a warning has its place right behind the front of a file. -/

/-- In the text, a warning stands right behind the front of `f`, which comes after all that is shown of `before`. -/
def WarnsOf (lead : String) (shows front : FileReport → String) (warning text : String)
    (shown before : List FileReport) (f : FileReport) : Prop :=
  ∃ after rest, shown = before ++ f :: after ∧
    text = lead ++ String.join (before.map shows) ++ front f ++ warning ++ rest

theorem exists_warnsOf_iff {lead : String} {shows front : FileReport → String} {warning : String}
    {shown : List FileReport} {p : FileReport → Prop} (tail : String)
    (h : ∀ f ∈ shown, ∀ tail, (∃ rest, shows f ++ tail = front f ++ (warning ++ rest)) ↔ p f) :
    (∃ before f, WarnsOf lead shows front warning (lead ++ String.join (shown.map shows) ++ tail) shown before f) ↔
      ∃ f ∈ shown, p f := by
  have hsplit (before : List FileReport) (f : FileReport) (after : List FileReport) :
      lead ++ String.join ((before ++ f :: after).map shows) ++ tail =
        lead ++ (String.join (before.map shows) ++ (shows f ++ (String.join (after.map shows) ++ tail))) := by
    simp only [List.map_append, List.map_cons, String.join_append, String.join_cons, String.append_assoc]
  constructor
  · rintro ⟨before, f, after, rest, rfl, htext⟩
    have hf : f ∈ before ++ f :: after := List.mem_append_right _ List.mem_cons_self
    refine ⟨f, hf, (h f hf (String.join (after.map shows) ++ tail)).1 ⟨rest, ?_⟩⟩
    rw [hsplit] at htext
    simpa only [String.append_assoc, String.append_right_inj] using htext
  · rintro ⟨f, hf, hp⟩
    obtain ⟨before, after, rfl⟩ := List.append_of_mem hf
    obtain ⟨rest, hrest⟩ := (h f hf (String.join (after.map shows) ++ tail)).2 hp
    refine ⟨before, f, after, rest, rfl, ?_⟩
    rw [hsplit, hrest]
    simp only [String.append_assoc]

/-- The text begins with the characters. -/
def Begins (cs : List Char) (text : String) : Prop := ∃ rest, text.toList = cs ++ rest

theorem Begins.append {cs : List Char} {text : String} (h : Begins cs text) (more : String) :
    Begins cs (text ++ more) := by
  obtain ⟨rest, hrest⟩ := h
  exact ⟨rest ++ more.toList, by rw [String.toList_append, hrest, List.append_assoc]⟩

theorem Begins.behind {cs : List Char} {text : String} (h : Begins cs text) {front : String} {first : List Char}
    (hfront : front = String.ofList first) : Begins (first ++ cs) (front ++ text) := by
  obtain ⟨rest, hrest⟩ := h
  exact ⟨rest, by rw [String.toList_append, hrest, hfront, String.toList_ofList, List.append_assoc]⟩

theorem begins_ofList (cs rest : List Char) : Begins cs (String.ofList (cs ++ rest)) := ⟨rest, String.toList_ofList⟩

/-- Texts that begin with different characters are different. -/
theorem Begins.ne {as bs : List Char} {a b : String} (ha : Begins as a) (hb : Begins bs b)
    (hlength : as.length = bs.length) (h : as ≠ bs) : a ≠ b := by
  rintro rfl
  obtain ⟨rest, hrest⟩ := ha
  obtain ⟨rest', hrest'⟩ := hb
  exact h (List.append_inj_left (hrest.symm.trans hrest') hlength)

/-! ## Banners for people -/

/-- The lines for the issues of a file. -/
def FileReport.issueLines (colored : Bool) (f : FileReport) : String :=
  String.join (f.result.issues.map fun i => ended (i.human colored f.file))

def bannerLine (colored : Bool) : String := ended ("  " ++ paint colored (bold .red) criticalBanner)

/-- The report for people has the banner behind the issues of the file that comes after `before`. -/
def ScanReport.HasBanner (colored : Bool) (r : ScanReport) : List FileReport → FileReport → Prop :=
  WarnsOf "" (FileReport.human colored) (FileReport.issueLines colored) (bannerLine colored) (r.human colored) r.files

theorem begins_control (code : String) : Begins ['\x1b'] (control code) :=
  ((begins_ofList ['\x1b'] ['[']).append code).append "m"

theorem begins_painted (c : Color) (text : String) : Begins ['\x1b'] (paint true (bold c) text) :=
  ((begins_control "1").append _).append _

/-- The banner has two blanks before it, and then a sign of its own. -/
theorem begins_bannerLine (colored : Bool) : ∃ c, c ≠ 'L' ∧ Begins [' ', ' ', c] (bannerLine colored) := by
  cases colored with
  | false =>
    have hbanner : Begins ['⚠'] criticalBanner := begins_ofList ['⚠'] _
    exact ⟨'⚠', by decide, (hbanner.behind rfl).append "\n"⟩
  | true => exact ⟨'\x1b', by decide, ((begins_painted .red criticalBanner).behind rfl).append "\n"⟩

/-- The line of figures is no banner. -/
theorem loadTime_ne_bannerLine (colored : Bool) (x y : String) : "  Load time: " ++ x ≠ bannerLine colored ++ y := by
  obtain ⟨c, hc, hbanner⟩ := begins_bannerLine colored
  have hline : Begins [' ', ' ', 'L'] "  Load time: " := begins_ofList [' ', ' ', 'L'] _
  exact (hline.append x).ne (hbanner.append y) rfl (by simp [hc.symm])

theorem noIssues_ne_bannerLine (colored : Bool) (x y : String) :
    paint colored (bold .green) "✔ no issues:" ++ x ≠ bannerLine colored ++ y := by
  obtain ⟨c, -, hbanner⟩ := begins_bannerLine colored
  obtain ⟨first, hfirst, hline⟩ : ∃ first, first ≠ ' ' ∧ Begins [first] (paint colored (bold .green) "✔ no issues:") := by
    cases colored with
    | false => exact ⟨'✔', by decide, begins_ofList ['✔'] _⟩
    | true => exact ⟨'\x1b', by decide, begins_painted .green _⟩
  have hblank : Begins [' '] (bannerLine colored) := by
    obtain ⟨rest, hrest⟩ := hbanner
    exact ⟨' ' :: c :: rest, hrest⟩
  exact (hline.append x).ne (hblank.append y) rfl (by simp [hfirst])

namespace FileReport
variable {f : FileReport}

theorem not_hasCritical (h : f.result.issues = []) : f.result.hasCritical = false := by
  rw [Result.hasCritical, h, anyCritical, List.any_nil]

theorem human_of_issues (h : f.result.issues ≠ []) (colored : Bool) :
    ∃ figures, f.human colored =
      f.issueLines colored ++ ((if f.result.hasCritical then bannerLine colored else "") ++
        ("  Load time: " ++ figures)) := by
  unfold human
  dsimp only
  rw [if_neg (by simpa using h)]
  simp only [ended, String.append_assoc]
  exact ⟨_, rfl⟩

/-- A file has the banner behind its issues just if one of them is critical. -/
theorem human_append_eq_iff (colored : Bool) (tail : String) :
    (∃ rest, f.human colored ++ tail = f.issueLines colored ++ (bannerLine colored ++ rest)) ↔
      f.result.hasCritical = true := by
  by_cases hissues : f.result.issues = []
  · have hlines : f.issueLines colored = "" := by rw [issueLines, hissues, List.map_nil, String.join_nil]
    rw [not_hasCritical hissues, hlines]
    refine iff_of_false ?_ Bool.false_ne_true
    rintro ⟨rest, hrest⟩
    unfold human at hrest
    dsimp only at hrest
    rw [if_pos (by rw [hissues]; rfl), ended, String.empty_append] at hrest
    simp only [String.append_assoc] at hrest
    exact noIssues_ne_bannerLine colored _ _ hrest
  · obtain ⟨figures, hfigures⟩ := human_of_issues hissues colored
    rw [hfigures]
    simp only [String.append_assoc, String.append_right_inj]
    cases f.result.hasCritical with
    | true => exact iff_of_true ⟨_, rfl⟩ rfl
    | false =>
      refine iff_of_false ?_ Bool.false_ne_true
      rintro ⟨rest, hrest⟩
      simp only [Bool.false_eq_true, if_false, String.empty_append] at hrest
      exact loadTime_ne_bannerLine colored _ _ hrest

end FileReport

theorem exists_hasBanner_iff (colored : Bool) (r : ScanReport) :
    (∃ before f, r.HasBanner colored before f) ↔ ∃ f ∈ r.files, f.result.hasCritical = true := by
  have hhuman : r.human colored = "" ++ String.join (r.files.map (FileReport.human colored)) ++
      ended (paint colored { bold := true } r.summary.human) := by rw [String.empty_append]; rfl
  unfold ScanReport.HasBanner
  rw [hhuman]
  exact exists_warnsOf_iff _ fun f _ tail => f.human_append_eq_iff colored tail

/-! ## Notices in markdown -/

/-- The files that a document shows. -/
def ScanReport.shown (r : ScanReport) : List FileReport := r.files.filter fun f => !f.result.issues.isEmpty

def ScanReport.title (r : ScanReport) : String := "# Performance Report\n\n" ++ r.summary.markdown

def FileReport.heading (f : FileReport) : String := ended ("## " ++ inlineCode f.file ++ "\n")

/-- The document has the notice under the heading of the file that comes after `before`. -/
def ScanReport.HasNotice (r : ScanReport) : List FileReport → FileReport → Prop :=
  WarnsOf r.title FileReport.markdown FileReport.heading (ended criticalNotice) r.markdown r.shown

/-- The line of an issue is no notice. -/
theorem issue_ne_criticalNotice (x y : String) : "- **" ++ x ≠ ended criticalNotice ++ y := by
  have hline : Begins ['-'] "- **" := begins_ofList ['-'] _
  have hnotice : Begins ['>'] criticalNotice := begins_ofList ['>'] _
  exact (hline.append x).ne ((hnotice.append "\n").append y) rfl (by decide)

theorem Issue.exists_markdown_eq (i : Issue) : ∃ item, i.markdown = "- **" ++ item := by
  unfold markdown
  simp only [ended, String.append_assoc]
  exact ⟨_, rfl⟩

namespace FileReport
variable {f : FileReport}

theorem markdown_of_issues (h : f.result.issues ≠ []) :
    ∃ items, f.markdown =
      f.heading ++ ((if f.result.hasCritical then ended criticalNotice else "") ++ ("- **" ++ items)) := by
  obtain ⟨i, issues, hissues⟩ := List.exists_cons_of_ne_nil h
  obtain ⟨item, hitem⟩ := i.exists_markdown_eq
  unfold markdown
  dsimp only
  rw [hissues, List.map_cons, String.join_cons, hitem, ← heading]
  simp only [String.append_assoc]
  exact ⟨_, rfl⟩

/-- A file that is shown has the notice under its heading just if one of its issues is critical. -/
theorem markdown_append_eq_iff (h : f.result.issues ≠ []) (tail : String) :
    (∃ rest, f.markdown ++ tail = f.heading ++ (ended criticalNotice ++ rest)) ↔ f.result.hasCritical = true := by
  obtain ⟨items, hitems⟩ := markdown_of_issues h
  rw [hitems]
  simp only [String.append_assoc, String.append_right_inj]
  cases f.result.hasCritical with
  | true => exact iff_of_true ⟨_, rfl⟩ rfl
  | false =>
    refine iff_of_false ?_ Bool.false_ne_true
    rintro ⟨rest, hrest⟩
    simp only [Bool.false_eq_true, if_false, String.empty_append] at hrest
    exact issue_ne_criticalNotice _ _ hrest

end FileReport

theorem exists_hasNotice_iff (r : ScanReport) :
    (∃ before f, r.HasNotice before f) ↔ ∃ f ∈ r.files, f.result.hasCritical = true := by
  have hmarkdown : r.markdown = r.title ++ String.join (r.shown.map FileReport.markdown) ++ "" := by
    rw [String.append_empty]
    rfl
  have hissues : ∀ f ∈ r.shown, f.result.issues ≠ [] := fun f hf => by
    simpa using (List.mem_filter.1 hf).2
  unfold ScanReport.HasNotice
  rw [hmarkdown, exists_warnsOf_iff _ fun f hf tail => f.markdown_append_eq_iff (hissues f hf) tail]
  constructor
  · rintro ⟨f, hf, hcritical⟩
    exact ⟨f, (List.mem_filter.1 hf).1, hcritical⟩
  · rintro ⟨f, hf, hcritical⟩
    -- a file without issues, which the document leaves out, has none that is critical
    have hissues : f.result.issues ≠ [] := fun h => by simp [FileReport.not_hasCritical h] at hcritical
    exact ⟨f, List.mem_filter.2 ⟨hf, by simpa using hissues⟩, hcritical⟩

/-! ## The end of a run -/

/-- What an analysis comes to: the form to print it in, what is to be noticed, and the reports of the files or why there
are none. -/
structure Analysis where
  form : String
  notices : List String
  files : Except String (List FileReport)

def Analysis.outcome (v : Voice) (a : Analysis) : Outcome :=
  match a.files with
  | .error reason => { exitCode := 2, notices := a.notices ++ [v.error reason] }
  | .ok files =>
    let report := ScanReport.ofFiles files
    { exitCode := report.summary.exitCode, output := report.printed a.form v.colors, notices := a.notices }

section
variable {m : Type → Type} [Monad m]

/-- A report that is made has the summary of its files. -/
def ScanReport.remade (r : ScanReport) : ScanReport := .ofFiles r.files

variable [LawfulMonad m]

theorem remade_complete (provider : Option (String → m Insight)) (model : LoadTimeModel)
    (files : List LocalFile) (tell : Event → m Unit) :
    ScanReport.remade <$> complete provider model files tell = complete provider model files tell := by
  rw [complete, map_bind]
  refine bind_congr fun reports => ?_
  rw [map_pure]
  rfl

variable [TreeReader] (w : World m) (v : Voice) (c : AnalyzeCommand)

theorem remade_commandReport (s : Settings) (ask : Option (String → m Insight)) :
    Except.map ScanReport.remade <$> commandReport w v c s ask = commandReport w v c s ask := by
  have hmade {x : m ScanReport} (hx : ScanReport.remade <$> x = x) :
      Except.map ScanReport.remade <$> (do pure (.ok (← x)) : m (Except String ScanReport)) =
        (do pure (.ok (← x))) := by
    rw [map_bind]
    conv => rhs; rw [← hx, bind_map_left]
    refine bind_congr fun r => ?_
    rw [map_pure]
    rfl
  rw [commandReport]
  split
  · rw [map_bind]
    refine bind_congr fun bytes => ?_
    split
    · rw [map_pure]
      rfl
    · refine hmade ?_
      rw [scanSource, map_bind]
      exact bind_congr fun _ => remade_complete ..
  · refine hmade ?_
    rw [scan, map_bind]
    refine bind_congr fun found => ?_
    rw [map_bind]
    exact bind_congr fun _ => remade_complete ..

end

section
variable {m : Type → Type} [Monad m] [TreeReader] (w : World m) (v : Voice) (c : AnalyzeCommand)

/-- The analysis that a command asks for. -/
def analysis : m Analysis := do
  let s ← settings w v c.overrides
  let (ask, disabled) ← provider w v s.ai
  let report ← commandReport w v c s ask
  pure ⟨s.output, defaultsNotice v s ++ disabled, report.map ScanReport.files⟩

/-- A run prints what its analysis comes to. -/
theorem runAnalyze_eq [LawfulMonad m] : runAnalyze w v c = Analysis.outcome v <$> analysis w v c := by
  rw [runAnalyze, analysis, map_bind]
  refine bind_congr fun s => ?_
  rw [map_bind]
  refine bind_congr fun (ask, disabled) => ?_
  dsimp only
  rw [map_bind, ← remade_commandReport, bind_map_left, bind_map_left]
  refine bind_congr fun report => ?_
  rw [map_pure]
  cases report with
  | error reason => rfl
  | ok report => rfl

end

theorem Summary.exitCode_eq_one_iff (s : Summary) : s.exitCode = 1 ↔ 0 < s.critical := by
  rw [exitCode]
  split
  · exact iff_of_true rfl ‹_›
  · exact iff_of_false (by decide) ‹_›

/-! ## Agreement -/

variable {σ : Type}

/-- The summary of any files tallies and does not depend on their order. It counts a critical issue just if some file
has one, if the report for people has a banner for some file, and if the document has a notice for some file. A run of
the command either has no files to report and ends with 2, or it ends with 1 just if their summary counts a critical
issue. -/
theorem summary_agrees [TreeReader] :
    (∀ files, Tallies (ScanReport.ofFiles files).summary files ∧
      (∀ files', files.Perm files' → (ScanReport.ofFiles files').summary = (ScanReport.ofFiles files).summary) ∧
      ∀ colored, [0 < (ScanReport.ofFiles files).summary.critical, ∃ f ∈ files, f.result.hasCritical = true,
        ∃ before f, (ScanReport.ofFiles files).HasBanner colored before f,
        ∃ before f, (ScanReport.ofFiles files).HasNotice before f].TFAE) ∧
    ∀ (w : World (StateM σ)) (v : Voice) (c : AnalyzeCommand) (s : σ),
      let outcome := ((runAnalyze w v c).run s).run.1
      match ((analysis w v c).run s).run.1 with
      | ⟨_, _, .error _⟩ => outcome.exitCode = 2
      | ⟨form, _, .ok files⟩ => outcome.output = (ScanReport.ofFiles files).printed form v.colors ∧
          (outcome.exitCode = 1 ↔ 0 < (ScanReport.ofFiles files).summary.critical) := by
  refine ⟨fun files => ⟨tallies_ofFiles files, fun files' h => (Summary.ofFiles_perm h).symm, fun colored => ?_⟩, ?_⟩
  · tfae_have 1 ↔ 2 := critical_pos_iff
    tfae_have 3 ↔ 2 := exists_hasBanner_iff colored _
    tfae_have 4 ↔ 2 := exists_hasNotice_iff _
    tfae_finish
  · intro w v c s
    dsimp only
    rw [runAnalyze_eq, StateT.run_map, Id.run_map]
    obtain ⟨⟨form, notices, files⟩, s'⟩ := ((analysis w v c).run s).run
    cases files with
    | error reason => rfl
    | ok files => exact ⟨rfl, (Summary.ofFiles files).exitCode_eq_one_iff⟩

/-- A file without issues. -/
def cleanFile : FileReport := ⟨"a.ts", [], .zero, []⟩

/-- A file with an issue of each severity. -/
def criticalFile : FileReport :=
  ⟨"b.ts", [{}, { severity := .critical, title := "Loop" }, { severity := .warning }], .zero, []⟩

theorem summary_agrees_criticalFile :
    (ScanReport.ofFiles [criticalFile, cleanFile]).summary = (ScanReport.ofFiles [cleanFile, criticalFile]).summary ∧
      (∃ before f, (ScanReport.ofFiles [cleanFile, criticalFile]).HasBanner false before f) ∧
      ∃ before f, (ScanReport.ofFiles [cleanFile, criticalFile]).HasNotice before f := by
  obtain ⟨-, horder, hwarns⟩ := (summary_agrees (σ := Unit)).1 [cleanFile, criticalFile]
  have hcritical : 0 < (ScanReport.ofFiles [cleanFile, criticalFile]).summary.critical := by decide
  exact ⟨horder _ (.swap ..), ((hwarns false).out 0 2).1 hcritical, ((hwarns false).out 0 3).1 hcritical⟩

end Fanout
