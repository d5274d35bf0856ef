import Fanout.Proofs.Issue.Json
import Fanout.Report.Scan
import Fanout.Review.Process

/-!
# Reports are read back

* `Metrics.Finite` : every figure can be written as a number. Then the figures are read back
  (`Metrics.ofJson?_toJson`);
* `Result.ofJson?_append` : a result is read back from its members, whichever members with other keys stand
  before them;
* `report_read_back` : issues, results, and every entry of the report of a scan;
* `ReviewReport.ofJson?` : all that the report of a review says is read from its object, so no two reports are
  written alike (`ReviewReport.toJson_injective`).
-/

namespace Fanout
open Json

/-! ## Figures and recommendations -/

/-- The figures in the order in which they are written. -/
def Metrics.figures (m : Metrics) : List Float :=
  [m.loadTime, m.databaseLoad, m.networkRequests, m.potentialImprovement]

def Metrics.Finite (m : Metrics) : Prop := ∀ x ∈ m.figures, x.isFinite = true

instance (m : Metrics) : Decidable m.Finite :=
  inferInstanceAs (Decidable (∀ x ∈ m.figures, x.isFinite = true))

theorem float?_ofFloat (x : Float) : float? (ofFloat x) = if x.isFinite then some x else none := by
  unfold ofFloat
  split <;> rfl

namespace Metrics

theorem record?_toJson (m : Metrics) :
    record? [["loadTime"], ["databaseLoad"], ["networkRequests"], ["potentialImprovement"]] m.toJson =
      some (m.figures.map fun x => some (ofFloat x)) :=
  @record?_append [] _ (by simp) (by simp)

theorem ofJson?_toJson {m : Metrics} (finite : m.Finite) : ofJson? m.toJson = some m := by
  have hfigure (x : Float) (hx : x ∈ m.figures) : float? (ofFloat x) = some x := by
    rw [float?_ofFloat, if_pos (finite x hx)]
  unfold figures at hfigure
  simp only [List.forall_mem_cons] at hfigure
  obtain ⟨hload, hdatabase, hnetwork, hpotential, -⟩ := hfigure
  rw [ofJson?, record?_toJson]
  simp only [figures, List.map_cons, List.map_nil, Option.bind_eq_bind, Option.bind_some, required?, hload,
    hdatabase, hnetwork, hpotential]

end Metrics

namespace Recommendation

theorem record?_toJson (r : Recommendation) :
    record? [["title"], ["description"], ["exampleCode"]] r.toJson =
      some [some (.string r.title), some (.string r.description), some (.string r.exampleCode)] :=
  @record?_append [] [("title", .string r.title), ("description", .string r.description),
    ("exampleCode", .string r.exampleCode)] (by simp) (by simp)

theorem ofJson?_toJson (r : Recommendation) : ofJson? r.toJson = some r := by
  rw [ofJson?, record?_toJson]
  rfl

end Recommendation

/-! ## Results -/

namespace Result

theorem ofJson?_append {r : Result} (finite : r.metrics.Finite) {before : List (String × Json)}
    (apart : ∀ m ∈ before, m.1 ∉ r.fields.map Prod.fst) : ofJson? (.object (before ++ r.fields)) = some r := by
  have hrecord : record? [["issues"], ["metrics"], ["recommendations"]] (.object (before ++ r.fields)) =
      some (r.fields.map fun m => some m.2) :=
    record?_append (by simp [fields]) apart
  rw [ofJson?, hrecord]
  simp only [fields, List.map_cons, List.map_nil, Option.bind_eq_bind, Option.bind_some, required?,
    list?_map Issue.ofJson?_toJson, Metrics.ofJson?_toJson finite, list?_map Recommendation.ofJson?_toJson]

theorem ofJson?_toJson {r : Result} (finite : r.metrics.Finite) : ofJson? r.toJson = some r :=
  @ofJson?_append r finite [] (by simp)

end Result

/-! ## Reports of files -/

/-- The file stands among the members of its result under a key that no result has. -/
theorem FileReport.result_ofJson?_toJson {f : FileReport} (finite : f.result.metrics.Finite) :
    Result.ofJson? f.toJson = some f.result := by
  have apart : ∀ m ∈ [("file", Json.string f.file)], m.1 ∉ f.result.fields.map Prod.fst := by
    simp [Result.fields]
  exact Result.ofJson?_append finite apart

/-- Issues are read back, results with finite figures are read back, and the report of a scan with finite
figures lists, for each file in order, an object that has the file and from which its result is read back. -/
theorem report_read_back :
    (∀ i : Issue, Issue.ofJson? i.toJson = some i) ∧
    (∀ r : Result, r.metrics.Finite → Result.ofJson? r.toJson = some r) ∧
    ∀ r : ScanReport, (∀ f ∈ r.files, f.result.metrics.Finite) →
      ∃ entries, r.toJson.get? "files" = some (.array entries) ∧
        List.Forall₂ (fun (f : FileReport) entry => Result.ofJson? entry = some f.result ∧
          entry.get? "file" = some (.string f.file)) r.files entries := by
  refine ⟨Issue.ofJson?_toJson, fun r => Result.ofJson?_toJson, fun r finite => ?_⟩
  refine ⟨r.files.map FileReport.toJson, rfl, ?_⟩
  rw [List.forall₂_map_right_iff, List.forall₂_same]
  intro f hf
  exact ⟨FileReport.result_ofJson?_toJson (finite f hf), rfl⟩

/-- Two files, the first with an issue that has every part and one that has none. -/
def oddReport : ScanReport :=
  .ofFiles
    [{ file := "src/\"odd\"\n\x7b.tsx"
       result :=
        { issues :=
            [{ severity := .critical, code := "\x01", title := "null", description := "type",
               line := some 0, column := some 4294967295, file := some "", suggestion := some "\\",
               impact := some 7 },
              {}]
          metrics := .ofCount 1 .perIssue
          recommendations := [⟨"", "\x7d", "file"⟩] } },
      { file := "", result := { issues := [], metrics := .zero, recommendations := [] } }]

theorem report_read_back_oddReport :
    (∀ f ∈ oddReport.files, f.result.metrics.Finite) ∧
    ∃ entries, oddReport.toJson.get? "files" = some (.array entries) ∧
      List.Forall₂ (fun (f : FileReport) entry => Result.ofJson? entry = some f.result ∧
        entry.get? "file" = some (.string f.file)) oddReport.files entries :=
  have finite : ∀ f ∈ oddReport.files, f.result.metrics.Finite := by decide +kernel
  ⟨finite, report_read_back.2.2 oddReport finite⟩

/-! ## Reports of reviews -/

def Comment.ofJson? (v : Json) : Option Comment := do
  match ← record? [["path"], ["line"], ["body"]] v with
  | [path, line, body] =>
    some {
      path := ← required? string? path
      line := ← required? word? line
      body := ← required? string? body }
  | _ => none

theorem Comment.ofJson?_toJson (c : Comment) : ofJson? c.toJson = some c := by
  have hrecord : record? [["path"], ["line"], ["body"]] c.toJson =
      some [some (.string c.path), some (Issue.ofWord c.line), some (.string c.body)] :=
    @record?_append [] [("path", .string c.path), ("line", Issue.ofWord c.line), ("body", .string c.body)]
      (by simp) (by simp)
  rw [ofJson?, hrecord]
  simp only [Option.bind_eq_bind, Option.bind_some, required?, string?, Issue.word?_ofWord]

def count? : Json → Option Nat
  | .number (.nat n) => some n
  | _ => none

namespace ReviewReport

def ofJson? (v : Json) : Option ReviewReport := do
  match ← record? [["filesScanned"], ["filesSkipped"], ["commentsPosted"], ["dryRun"], ["comments"],
      ["failures"]] v with
  | [scanned, skipped, posted, dryRun, comments, failures] =>
    some {
      filesScanned := ← required? count? scanned
      filesSkipped := ← required? count? skipped
      commentsPosted := ← required? count? posted
      dryRun := ← required? bool? dryRun
      comments := ← required? (list? Comment.ofJson?) comments
      failures := ← required? (list? string?) failures }
  | _ => none

theorem record?_toJson (r : ReviewReport) :
    record? [["filesScanned"], ["filesSkipped"], ["commentsPosted"], ["dryRun"], ["comments"], ["failures"]]
        r.toJson =
      some [some (ofNat r.filesScanned), some (ofNat r.filesSkipped), some (ofNat r.commentsPosted),
        some (.bool r.dryRun), some (.array (r.comments.map Comment.toJson)), some (ofStrings r.failures)] :=
  @record?_append []
    [("filesScanned", ofNat r.filesScanned), ("filesSkipped", ofNat r.filesSkipped),
      ("commentsPosted", ofNat r.commentsPosted), ("dryRun", .bool r.dryRun),
      ("comments", .array (r.comments.map Comment.toJson)), ("failures", ofStrings r.failures)]
    (by simp) (by simp)

theorem ofJson?_toJson (r : ReviewReport) : ofJson? r.toJson = some r := by
  have hstring (s : String) : string? (.string s) = some s := rfl
  rw [ofJson?, record?_toJson]
  simp only [Option.bind_eq_bind, Option.bind_some, required?, ofNat, count?, bool?, ofStrings,
    list?_map Comment.ofJson?_toJson, list?_map hstring]

theorem toJson_injective : Function.Injective toJson := fun r r' h =>
  Option.some.inj (by rw [← ofJson?_toJson, ← ofJson?_toJson, h])

end ReviewReport

end Fanout
