import Fanout.Proofs.Analysis.Finish
import Fanout.Proofs.Pattern.Findings
import Fanout.Proofs.Scan.Order

/-!
# Scans and single sources

* `FileReport.ofText`, `FileReport.ofReading` : the report of a file from its own text alone, by an analysis
  of a single source;
* `noted` : a provider of insights that notes down what it is asked;
* `scanInOrder` : a scan that takes the files in some order in the local half of their analysis;
* `scan_agrees` : a scan in any order comes to the reports of its files, one by one;
* `scan_told` : it does so whatever is told of it on the way.
-/

namespace Fanout

/-! ## The report of one file -/

variable (insight : Option (String → Insight)) (model : LoadTimeModel)

/-- The report of a text from an analysis of this text alone. -/
def FileReport.ofText [TreeReader] (display text : String) (language : Language) : FileReport :=
  ⟨display, analyze { language, file := some display, model, provider := insight } text⟩

/-- The report of a file that cannot be read: a warning and nothing else. -/
def FileReport.ofUnreadable (display reason : String) : FileReport where
  file := display
  result :=
    { issues :=
        [{ severity := .warning, code := "ANALYSIS_ERROR", title := "Analysis Error"
           description := "Failed to read file: " ++ reason, line := some 0, file := some display }]
      metrics := ⟨0, 0, 0, 0⟩
      recommendations := [] }

/-- The report of a file from what reading it has come to. -/
def FileReport.ofReading [TreeReader] (display : String) (language : Language) : Except String String → FileReport
  | .ok text => ofText insight model display text language
  | .error reason => ofUnreadable display reason

/-- The report of the file at a path. -/
def FileReport.at [TreeReader] (files : Files Id) (root path : List Char) : FileReport :=
  ofReading insight model (displayName root path) (Language.ofPath (String.ofList path)) (files.text path).run

/-- The issues that a provider of insights has for a text, if there are both. -/
def remoteIssues (text : Option String) : List Issue :=
  ((insight.bind fun ask => text.map ask).getD .empty).additionalIssues

theorem file_of_mem_ofFound {file : Option String} {found : Except ParseError (List Issue)}
    (h : ∀ issues, found = .ok issues → ∀ i ∈ issues, i.file = file) {i : Issue}
    (hi : i ∈ (LocalOutcome.ofFound file found).issues) : i.file = file := by
  cases found with
  | error e =>
    obtain rfl := List.mem_singleton.1 hi
    rfl
  | ok issues => exact h issues rfl i hi

theorem file_of_mem_runLocal [TreeReader] {language : Language} {file : Option String} {text : String}
    {i : Issue} (h : i ∈ (runLocal language file text).issues) : i.file = file := by
  refine file_of_mem_ofFound (fun issues hfound i hi => ?_) h
  obtain ⟨root, -, rfl⟩ := findSourceIssues_eq_ok_iff.1 hfound
  exact Rules.file_of_mem_findIssues file hi

theorem FileReport.issues_ofText [TreeReader] (display text : String) (language : Language) :
    (ofText insight model display text language).result.issues =
      (runLocal language (some display) text).issues ++ remoteIssues insight (some text) := by
  rw [ofText, analyze, finish_cases]
  cases insight <;> rfl

/-- What does not come from the provider names the file that is reported. -/
theorem FileReport.issues_ofReading [TreeReader] (display : String) (language : Language)
    (reading : Except String String) :
    ∃ found : List Issue,
      (ofReading insight model display language reading).result.issues =
          found ++ remoteIssues insight reading.toOption ∧
        found.map (·.file) = List.replicate found.length (some display) := by
  cases reading with
  | error reason =>
    refine ⟨(ofUnreadable display reason).result.issues, ?_, rfl⟩
    cases insight <;> rfl
  | ok text =>
    refine ⟨_, issues_ofText insight model display text language, ?_⟩
    refine List.eq_replicate_iff.2 ⟨List.length_map _, fun file h => ?_⟩
    obtain ⟨i, hi, rfl⟩ := List.mem_map.1 h
    exact file_of_mem_runLocal hi

/-! ## Asking a provider -/

/-- A provider of insights that notes down what it is asked, the last question at the end. -/
def noted (ask : String → Insight) (text : String) : StateM (List String) Insight := do
  modify (· ++ [text])
  pure (ask text)

/-- A provider is asked for a file just if there are both a provider and a text. -/
def questions (text : Option String) : List String :=
  if insight.isSome then text.toList else []

/-- The report of a file after the local half of its analysis. -/
def LocalFile.completed (f : LocalFile) : FileReport :=
  ⟨f.display, finish f.outcome (insight.bind fun ask => f.source?.map ask) model⟩

theorem completeFile_noted (f : LocalFile) (asked : List String) :
    (completeFile Event.unheard (insight.map noted) model f).run asked =
      pure (f.completed insight model, asked ++ questions insight f.source?) := by
  unfold completeFile questions LocalFile.completed
  cases insight with
  | none => simp
  | some ask =>
    cases f.source? with
    | none => simp
    | some text => rfl

/-- Where each step notes down questions of its own, a walk through a list notes them down in its order. -/
theorem mapM_noted {α β : Type} {f : α → StateM (List String) β} {g : α → β}
    {questions : α → List String}
    (h : ∀ a asked, (f a).run asked = pure (g a, asked ++ questions a)) (xs : List α)
    (asked : List String) :
    (xs.mapM f).run asked = pure (xs.map g, asked ++ xs.flatMap questions) := by
  induction xs generalizing asked with
  | nil => simp
  | cons x xs ih => simp [h, ih]

theorem complete_noted (files : List LocalFile) (asked : List String) :
    (complete (insight.map noted) model files).run asked =
      pure (.ofFiles (files.map (LocalFile.completed insight model)),
        asked ++ files.flatMap fun f => questions insight f.source?) := by
  rw [complete, StateT.run_bind, mapM_noted (completeFile_noted insight model)]
  rfl

/-! ## What is told -/

section
variable {σ : Type}

/-- A provider that changes nothing. -/
def steady (ask : String → Insight) (text : String) : StateM σ Insight := pure (ask text)

theorem completeFile_told (tell : Event → StateM σ Unit) (f : LocalFile) (s : σ) :
    ((completeFile tell (insight.map steady) model f).run s).run.1 = f.completed insight model := by
  unfold completeFile LocalFile.completed
  cases insight with
  | none => rfl
  | some ask => cases f.source? <;> rfl

theorem mapM_run {α β : Type} {f : α → StateM σ β} {g : α → β} (h : ∀ a s, ((f a).run s).run.1 = g a)
    (xs : List α) (s : σ) : ((xs.mapM f).run s).run.1 = xs.map g := by
  induction xs generalizing s with
  | nil => rfl
  | cons x xs ih =>
    rw [List.mapM_cons, List.map_cons, ← h x s, ← ih ((f x).run s).run.2]
    rfl

theorem complete_told (tell : Event → StateM σ Unit) (files : List LocalFile) (s : σ) :
    ((complete (insight.map steady) model files tell).run s).run.1 =
      .ofFiles (files.map (LocalFile.completed insight model)) :=
  congrArg ScanReport.ofFiles (mapM_run (completeFile_told insight model tell) files s)

end

/-! ## Scans -/

section
variable {m : Type → Type} [Monad m]

theorem Event.forM_unheard [LawfulMonad m] (events : List Event) :
    events.forM (Event.unheard (m := m)) = pure () := by
  induction events with
  | nil => rfl
  | cons e events ih =>
    show (unheard e >>= fun _ => events.forM unheard) = pure ()
    rw [unheard, pure_bind, ih]

variable [TreeReader]

/-- A scan that takes the files in some order in the local half of their analysis. -/
def scanInOrder (order : Order) (files : Files m) (provider : Option (String → m Insight))
    (model : LoadTimeModel) (root : List Char) (patterns : List String) : m ScanReport := do
  complete provider model (← mapInOrder order (localFile files root) (← targets files root patterns))

/-- The files below a root after the local half of their analysis, where all files stay as they are. -/
def foundFiles (files : Files Id) (root : List Char) (patterns : List String) : List LocalFile :=
  (targets files root patterns).run.map fun path => (localFile files root path).run

theorem scanInOrder_lift [LawfulMonad m] (order : Order) (files : Files Id)
    (provider : Option (String → m Insight)) (root : List Char) (patterns : List String) :
    scanInOrder order files.lift provider model root patterns =
      complete provider model (foundFiles files root patterns) := by
  have hlocal : localFile (m := m) files.lift root = fun path => pure (localFile files root path).run :=
    funext (localFile_lift files root)
  rw [scanInOrder, targets_lift, pure_bind, hlocal, mapInOrder_pure, pure_bind, foundFiles]

theorem scan_lift [LawfulMonad m] (files : Files Id) (provider : Option (String → m Insight))
    (root : List Char) (patterns : List String) (tell : Event → m Unit) :
    scan files.lift provider model root patterns tell = (do
      (Event.ofScan root patterns (foundFiles files root patterns)).forM tell
      complete provider model (foundFiles files root patterns) tell) := by
  have hlocal : localFile (m := m) files.lift root = fun path => pure (localFile files root path).run :=
    funext (localFile_lift files root)
  rw [scan, localFiles, targets_lift, pure_bind, hlocal, List.mapM_pure, pure_bind, foundFiles]

end

/-- The text of the file at a path, if it can be read. -/
def Files.text? (files : Files Id) (path : List Char) : Option String := (files.text path).run.toOption

section
variable [TreeReader]

theorem source?_localFile (files : Files Id) (root path : List Char) :
    (localFile files root path).run.source? = files.text? path := by
  unfold Files.text? localFile
  simp only [Id.run_bind]
  cases (files.text path).run <;> rfl

/-- A file that is completed after its local half has the report of its text alone. -/
theorem completed_localFile (files : Files Id) (root path : List Char) :
    (localFile files root path).run.completed insight model = FileReport.at insight model files root path := by
  unfold FileReport.at localFile
  simp only [Id.run_bind]
  cases (files.text path).run <;> cases insight <;> rfl

theorem map_completed_foundFiles (files : Files Id) (root : List Char) (patterns : List String) :
    (foundFiles files root patterns).map (LocalFile.completed insight model) =
      (targets files root patterns).run.map (FileReport.at insight model files root) := by
  rw [foundFiles, List.map_map]
  exact List.map_congr_left fun path _ => completed_localFile insight model files root path

/-- Files that are completed after the local half of their analysis have their own reports, and each text is
asked about once. -/
theorem complete_foundFiles (files : Files Id) (root : List Char) (patterns : List String)
    (asked : List String) :
    (complete (insight.map noted) model (foundFiles files root patterns)).run asked =
      pure (.ofFiles ((targets files root patterns).run.map (FileReport.at insight model files root)),
        asked ++ if insight.isSome then (targets files root patterns).run.filterMap files.text? else []) := by
  have hasked (paths : List (List Char)) : paths.flatMap (fun path => questions insight (files.text? path)) =
      if insight.isSome then paths.filterMap files.text? else [] := by
    cases insight with
    | none => simp [questions]
    | some ask => simp [questions, List.filterMap_eq_flatMap_toList]
  rw [complete_noted, map_completed_foundFiles, foundFiles, List.flatMap_map]
  simp only [source?_localFile, hasked]

theorem file_at (files : Files Id) (root path : List Char) :
    (FileReport.at insight model files root path).file = displayName root path := by
  unfold FileReport.at
  cases (files.text path).run <;> rfl

/-- A scan of files that stay as they are comes to the report that each file has alone, in the order of the
files and whatever the order of their local analyses. The provider is asked once for each text that can be
read, in the order of the files, and for nothing else. All issues that do not come from the provider name
the file of their report. The same holds for a scan of one text. -/
theorem scan_agrees (files : Files Id) (root : List Char) (patterns : List String) (order : Order)
    (name text : String) (calls : List String) :
    let paths := (targets files root patterns).run
    let report := FileReport.at insight model files root
    let scanned := (ScanReport.ofFiles (paths.map report),
      calls ++ if insight.isSome then paths.filterMap files.text? else [])
    let single := FileReport.ofText insight model name text (Language.ofPath name)
    (scanInOrder order files.lift (insight.map noted) model root patterns).run calls = pure scanned ∧
      (scan files.lift (insight.map noted) model root patterns).run calls = pure scanned ∧
      (paths.map report).map (·.file) = paths.map (displayName root) ∧
      (∀ path, ∃ found : List Issue,
        (report path).result.issues = found ++ remoteIssues insight (files.text? path) ∧
          found.map (·.file) = List.replicate found.length (some (report path).file)) ∧
      (scanSource (insight.map noted) model name text).run calls =
        pure (.ofFiles [single], calls ++ if insight.isSome then [text] else []) ∧
      ∃ found : List Issue,
        single.result.issues = found ++ remoteIssues insight (some text) ∧
          found.map (·.file) = List.replicate found.length (some name) := by
  intro paths report scanned single
  refine ⟨?_, ?_, ?_, fun path => ?_, ?_, FileReport.issues_ofReading insight model name _ (.ok text)⟩
  · rw [scanInOrder_lift, complete_foundFiles]
  · rw [scan_lift, Event.forM_unheard, pure_bind, complete_foundFiles]
  · rw [List.map_map]
    exact List.map_congr_left fun path _ => file_at insight model files root path
  · rw [file_at]
    exact FileReport.issues_ofReading insight model (displayName root path) _ (files.text path).run
  · rw [scanSource, Event.unheard, pure_bind, complete_noted]
    cases insight <;> rfl

/-- Whatever is told of a scan, and whatever that changes on the way, the report is that of its files. -/
theorem scan_told {σ : Type} (files : Files Id) (root : List Char) (patterns : List String)
    (name text : String) (tell : Event → StateM σ Unit) (s : σ) :
    ((scan files.lift (insight.map steady) model root patterns tell).run s).run.1 =
        .ofFiles ((targets files root patterns).run.map (FileReport.at insight model files root)) ∧
      ((scanSource (insight.map steady) model name text tell).run s).run.1 =
        .ofFiles [FileReport.ofText insight model name text (Language.ofPath name)] := by
  constructor
  · rw [scan_lift, StateT.run_bind, Id.run_bind, complete_told, map_completed_foundFiles]
  · rw [scanSource, StateT.run_bind, Id.run_bind, complete_told]
    cases insight <;> rfl

end

end Fanout
