import Fanout.Insight.Reply
import Fanout.Proofs.Analysis.Finish
import Fanout.Proofs.Grammar.Size
import Fanout.Proofs.Insight.ObjectReply
import Fanout.Proofs.Json.Finite
import Fanout.Proofs.Pattern.Pairing
import Fanout.Proofs.Report.Json
import Fanout.Proofs.Tree.Depth

/-!
# Figures are finite

* `Insight.isFinite_ofReply` : the figures of a reply, whichever form it has and whatever stands in it;
* `Metrics.finite_overriddenBy` : finite figures stay so under any insight, even one that holds infinities;
* `countOf_runLocal_le` : a source has no more critical issues than its concrete tree has nodes, which bounds the
  figures that are made of their number (`Metrics.finite_ofCount`);
* `metrics_finite` : so the figures of an analysis are finite, and none is null in JSON.
-/

namespace Fanout
open Json

/-! ## Replies -/

theorem isFinite_zero : (0 : Float).isFinite = true := by decide

theorem isFinite_figureOfText (text : List Char) : (figureOfText text).isFinite = true := by
  unfold figureOfText
  split
  · split_ifs with hfinite
    · exact hfinite
    · exact isFinite_zero
  · exact isFinite_zero

theorem isFinite_figureMember {v : Json} (h : v.Finite) (key : String) :
    (figureMember v key).isFinite = true := by
  unfold figureMember
  split
  · next hnumber =>
    cases h.get? hnumber with
    | number hn => exact hn.toFloat
  · exact isFinite_figureOfText _
  · exact isFinite_zero

namespace Labeled

theorem isFinite_of_mem_figuresWith {fuel : Nat} {atStart : Bool} {text : List Char} {x : Label × Float}
    (h : x ∈ figuresWith fuel atStart text) : x.2.isFinite = true := by
  induction fuel generalizing atStart text with
  | zero => cases h
  | succ fuel ih =>
    cases text with
    | nil => cases h
    | cons c cs =>
      simp only [figuresWith] at h
      split at h
      · split_ifs at h
        · obtain rfl | hmore := List.mem_cons.1 h
          · exact isFinite_figureOfText _
          · exact ih hmore
        · exact ih h
      · exact ih h

theorem isFinite_record {r : Insight} (hr : ∀ x ∈ r.figures, x.isFinite = true) {x : Label × Float}
    (hx : x.2.isFinite = true) : ∀ y ∈ (record r x).figures, y.isFinite = true := by
  obtain ⟨label, x⟩ := x
  simp only [Insight.figures, List.forall_mem_cons] at hr ⊢
  obtain ⟨hload, hdatabase, hnetwork, hpotential, hnil⟩ := hr
  cases label with
  | loadTimeImpact => exact ⟨hx, hdatabase, hnetwork, hpotential, hnil⟩
  | databaseEfficiency => exact ⟨hload, hx, hnetwork, hpotential, hnil⟩
  | networkOptimization => exact ⟨hload, hdatabase, hx, hpotential, hnil⟩
  | potentialImprovement => exact ⟨hload, hdatabase, hnetwork, hx, hnil⟩

theorem isFinite_foldl_record {r : Insight} (hr : ∀ x ∈ r.figures, x.isFinite = true)
    {found : List (Label × Float)} (hfound : ∀ x ∈ found, x.2.isFinite = true) :
    ∀ y ∈ (found.foldl record r).figures, y.isFinite = true := by
  induction found generalizing r with
  | nil => exact hr
  | cons x found ih =>
    obtain ⟨hx, hfound⟩ := List.forall_mem_cons.1 hfound
    exact ih (isFinite_record hr hx) hfound

end Labeled

namespace Insight

theorem isFinite_empty : ∀ x ∈ empty.figures, x.isFinite = true := by decide

theorem isFinite_ofObjectReply (text : String) : ∀ x ∈ (ofObjectReply text).figures, x.isFinite = true := by
  unfold ofObjectReply
  split
  · next v hread =>
    obtain ⟨body, -, hparse⟩ := Option.bind_eq_some_iff.1 hread
    have hmember := isFinite_figureMember (finite_parse? hparse)
    simp only [figures, ofObject, List.forall_mem_cons]
    exact ⟨hmember _, hmember _, hmember _, hmember _, List.forall_mem_nil _⟩
  · exact isFinite_empty

theorem isFinite_ofLabeledReply (text : String) : ∀ x ∈ (ofLabeledReply text).figures, x.isFinite = true :=
  Labeled.isFinite_foldl_record isFinite_empty fun _ => Labeled.isFinite_of_mem_figuresWith

/-- No reply holds a figure that is no finite number. -/
theorem isFinite_ofReply (format : ReplyFormat) (text : String) :
    ∀ x ∈ (ofReply format text).figures, x.isFinite = true := by
  cases format with
  | json => exact isFinite_ofObjectReply text
  | labeled => exact isFinite_ofLabeledReply text

end Insight

/-! ## Critical issues -/

open Branching

/-- Lowering makes at most one node of each. -/
theorem Concrete.size_lowerAll_le (c : Concrete) : size c.lowerAll ≤ size c := by
  have hperm := c.origins_perm.length_eq
  rw [origins, List.length_map] at hperm
  rw [size, size, hperm]
  exact List.length_filter_le _ _

/-- At a node there is one issue at most. -/
theorem countOf_findIssues_le (root : Node) (file : Option String) :
    countOf .critical (findIssues root file) ≤ size root := by
  have hlength : root.visits.length = size root := by
    rw [Node.visits_eq]
    exact List.length_map _
  calc countOf .critical (findIssues root file)
    _ ≤ (findIssues root file).length := List.countP_le_length
    _ ≤ root.visits.countP (·.node.isCall) := Rules.length_findIssues_le root file
    _ ≤ root.visits.length := List.countP_le_length
    _ = size root := hlength

/-- A source has no more critical issues than its concrete tree has nodes. -/
theorem countOf_runLocal_le [TreeReader] {language : Language} {file : Option String} {text : String}
    {issues : List Issue} (h : runLocal language file text = .matched issues) :
    countOf .critical issues ≤ size (TreeReader.read language text) := by
  obtain ⟨root, hparse, rfl⟩ := runLocal_eq_matched_iff.1 h
  rw [Concrete.eq_lowerAll_of_lower (lower_of_parse hparse)]
  calc countOf .critical (findIssues (TreeReader.read language text).lowerAll file)
    _ ≤ size (TreeReader.read language text).lowerAll := countOf_findIssues_le _ file
    _ ≤ size (TreeReader.read language text) := Concrete.size_lowerAll_le _

/-- Every character has a byte. -/
theorem length_le_utf8ByteSize (text : String) : text.length ≤ text.utf8ByteSize := by
  have hencode (cs : List Char) : cs.length ≤ cs.utf8Encode.size := by
    induction cs with
    | nil => exact Nat.zero_le _
    | cons c cs ih =>
      have hchar : [c].utf8Encode.size = c.utf8Size := by
        rw [List.utf8Encode_singleton, List.size_toByteArray, String.length_utf8EncodeChar]
      have hpos := c.utf8Size_pos
      rw [List.utf8Encode_cons, ByteArray.size_append, List.length_cons, hchar]
      omega
  rw [← String.size_toByteArray, ← String.utf8Encode_toList, ← String.length_toList]
  exact hencode _

/-- The length of a text is a machine word, and the nodes of its tree have few bits more than two of these. -/
theorem size_ofSource_lt {text : String} (hlength : text.utf8ByteSize < 2 ^ 64) (language : Language) :
    size (Concrete.ofSource language text) < 2 ^ 160 := by
  have hchars : text.length < 2 ^ 64 := Nat.lt_of_le_of_lt (length_le_utf8ByteSize text) hlength
  have hfuel : Grammar.fuelFor text.length ≤ 2 ^ 80 := by
    unfold Grammar.fuelFor
    omega
  have hproduct : Grammar.fuelFor text.length * (text.length + 1) ≤ 2 ^ 80 * 2 ^ 64 :=
    Nat.mul_le_mul hfuel (by omega)
  have hsize := Concrete.size_ofSource_le language text
  omega

/-! ## Metrics -/

namespace Metrics

theorem finite_zero : zero.Finite := by decide

/-- The largest of the constants is far from the largest double, and so is a count of so many bits. -/
theorem finite_ofCount {n : Nat} (h : n < 2 ^ 160) (model : LoadTimeModel) : (ofCount n model).Finite := by
  have hcount : Within 160 (Float.ofNat n) := within_ofScientific h (by decide) (by decide)
  have hscaled {c : Float} (hc : Within 0 c) : Within 214 (c * Float.ofNat n) :=
    hc.mul hcount (by decide) (by decide) (by decide)
  have hload : (ofCount n model).loadTime.isFinite = true := by
    have hbase : Within 0 baseLoadTime := by decide +kernel
    cases model with
    | perIssue =>
      have hmore : Within 214 (loadTimePerCritical * Float.ofNat n) := hscaled (by decide +kernel)
      have hsum : Within 268 (baseLoadTime + loadTimePerCritical * Float.ofNat n) :=
        hbase.add hmore (by decide) (by decide) (by decide) (by decide)
      exact hsum.isFinite
    | flat => exact hbase.isFinite
  have hleast {a b : Float} (ha : a.isFinite = true) (hb : b.isFinite = true) :
      (least a b).isFinite = true := by
    unfold least
    split_ifs
    · exact hb
    · exact ha
  simp only [Finite, figures, List.forall_mem_cons]
  refine ⟨hload, ?_, ?_, hleast ?_ (by decide +kernel), List.forall_mem_nil _⟩
  · exact (hscaled (c := databaseLoadPerCritical) (by decide +kernel)).isFinite
  · exact (hscaled (c := requestsPerCritical) (by decide +kernel)).isFinite
  · exact (hscaled (c := improvementPerCritical) (by decide +kernel)).isFinite

theorem finite_overriddenBy {m : Metrics} (h : m.Finite) (r : Insight) : (m.overriddenBy r).Finite := by
  have hprefer (remote : Float) {local_ : Float} (hlocal : local_.isFinite = true) :
      (preferRemote remote local_).isFinite = true := by
    rw [preferRemote_eq]
    split_ifs with hspeaks
    · exact hspeaks.1
    · exact hlocal
  simp only [Finite, figures, List.forall_mem_cons] at h ⊢
  obtain ⟨hload, hdatabase, hnetwork, hpotential, hnil⟩ := h
  exact ⟨hprefer _ hload, hprefer _ hdatabase, hprefer _ hnetwork, hprefer _ hpotential, hnil⟩

end Metrics

theorem LocalOutcome.finite_runLocal [TreeReader] {language : Language} {text : String}
    (hsize : size (TreeReader.read language text) < 2 ^ 160) (file : Option String) (model : LoadTimeModel) :
    ((runLocal language file text).metrics model).Finite := by
  cases hlocal : runLocal language file text with
  | matched issues =>
    have hcount := Nat.lt_of_le_of_lt (countOf_runLocal_le hlocal) hsize
    exact Metrics.finite_ofCount hcount model
  | failed issue => exact Metrics.finite_zero

/-- The figures of a result are finite, and its object has a number for each of them. -/
structure Result.FiniteFigures (r : Result) : Prop where
  finite : r.metrics.Finite
  written : ∃ members, r.toJson.get? "metrics" = some (.object members) ∧
    members.map Prod.fst = ["loadTime", "databaseLoad", "networkRequests", "potentialImprovement"] ∧
    ∀ m ∈ members, ∃ x : Float, x.isFinite = true ∧ m.2 = .number (.float x)

theorem Result.finiteFigures {r : Result} (hfinite : r.metrics.Finite) : r.FiniteFigures := by
  refine ⟨hfinite, _, rfl, rfl, fun m hm => ?_⟩
  have hnumber (x : Float) (hx : x ∈ r.metrics.figures) :
      ∃ y : Float, y.isFinite = true ∧ ofFloat x = .number (.float y) :=
    ⟨x, hfinite x hx, Insight.ofFloat_of_isFinite (hfinite x hx)⟩
  simp only [List.mem_cons, List.not_mem_nil, or_false] at hm
  obtain rfl | rfl | rfl | rfl := hm
  all_goals exact hnumber _ (by simp [Metrics.figures])

theorem finiteFigures_analyze [TreeReader] {o : AnalyzeOptions} {text : String}
    (hsize : size (TreeReader.read o.language text) < 2 ^ 160) : (analyze o text).FiniteFigures := by
  refine Result.finiteFigures ?_
  rw [analyze, finish_cases]
  exact Metrics.finite_overriddenBy (LocalOutcome.finite_runLocal hsize _ _) _

/-- Every reply, in either form, gives finite figures. Finite figures stay finite under any insight, even one
that holds infinities or what is no number. The figures of an analysis are finite, whatever its source, its
language, its model of the load time and what it is told of the source, and its object has a number for each
of them. The nodes of a concrete tree are counted in a machine word, and so are the bytes of a source. -/
theorem metrics_finite :
    (∀ (format : ReplyFormat) (reply : String),
      ∀ x ∈ (Insight.ofReply format reply).figures, x.isFinite = true) ∧
    (∀ (m : Metrics) (r : Insight), m.Finite → (m.overriddenBy r).Finite) ∧
    (∀ [TreeReader] (o : AnalyzeOptions) (text : String), size (TreeReader.read o.language text) < 2 ^ 160 →
      (analyze o text).FiniteFigures) ∧
    ∀ (o : AnalyzeOptions) (text : String), text.utf8ByteSize < 2 ^ 64 → (analyze o text).FiniteFigures :=
  ⟨Insight.isFinite_ofReply, fun _ r h => Metrics.finite_overriddenBy h r, fun _ _ => finiteFigures_analyze,
    fun o _ hlength => finiteFigures_analyze (size_ofSource_lt hlength o.language)⟩

/-- An insight that no reply gives. -/
def boundlessInsight : Insight where
  loadTimeImpact := 1.0 / 0.0
  databaseEfficiency := 0.0 / 0.0
  networkOptimization := -1.0 / 0.0
  potentialImprovement := 50

theorem metrics_finite_boundlessInsight :
    let source := "await Promise.all(ids.map(load))"
    Metrics.zero.Finite ∧ (Metrics.zero.overriddenBy boundlessInsight).Finite ∧
      source.utf8ByteSize < 2 ^ 64 ∧ size (TreeReader.read .tsx source) < 2 ^ 160 ∧
      (analyze { provider := some fun _ => boundlessInsight } source).metrics.Finite ∧
      (analyze {} source).metrics.Finite := by
  intro source
  have hzero : Metrics.zero.Finite := by decide
  have hsource : source.utf8ByteSize < 2 ^ 64 := by decide
  have htree : size (TreeReader.read .tsx source) < 2 ^ 160 := size_ofSource_lt hsource .tsx
  obtain ⟨-, hmerge, hread, hanalysis⟩ := metrics_finite
  have hresult := hanalysis { provider := some fun _ => boundlessInsight } source hsource
  exact ⟨hzero, hmerge _ _ hzero, hsource, htree, hresult.finite, (hread {} source htree).finite⟩

/-- A number beyond the doubles is none in JSON, so that nothing is read. Spelled in a text it only reads as
zero itself. -/
example :
    let figures (reply : String) := (Insight.ofReply .json reply).figures
    figures "\x7b\"loadTimeImpact\": 1e999, \"potentialImprovement\": 50\x7d" = [0, 0, 0, 0] ∧
      figures "\x7b\"loadTimeImpact\": \"1e999%\", \"potentialImprovement\": 50\x7d" = [0, 0, 0, 50] := by
  decide +kernel

end Fanout
