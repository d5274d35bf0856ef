import Fanout.Insight.ObjectReply
import Fanout.Proofs.Issue.Json
import Fanout.Proofs.Json.Braces
import Fanout.Proofs.Json.RoundTrip
import Fanout.Proofs.Text.Trim

/-!
# Insights are read back from their objects

* `outermost?_eq_some_iff` : an object is cut out of a text that has no opening brace before it and no closing
  one behind it, whatever braces stand inside, and nothing else is ever cut out;
* `Holds` : what is cut out is an object with these members, and `Insight.ofObjectReply_of_not_holdsObject` : a
  reply that holds none says nothing;
* `Insight.ofObject_toJson` : an insight with finite figures is read back from its object;
* `Insight.ofObjectReply_written` : so it is from the text of the object, in either form, with prose around it.
-/

namespace Fanout
open Json
open Text (dropEndWhile_of_all dropEndWhile_eq dropWhile_eq_cons)

/-! ## The cut -/

/-- A text that begins with an opening brace and ends with a closing one. -/
def Braced (cs : List Char) : Prop := ∃ inner, cs = '{' :: (inner ++ ['}'])

theorem outermost?_append {before body after : List Char} (hbefore : '{' ∉ before) (hbody : Braced body)
    (hafter : '}' ∉ after) : outermost? (before ++ body ++ after) = some body := by
  obtain ⟨inner, rfl⟩ := hbody
  have hstart : ∀ c ∈ before, (c != '{') = true := fun c hc =>
    bne_iff_ne.2 fun h => hbefore (h ▸ hc)
  have hend : ∀ c ∈ after, (c != '}') = true := fun c hc => bne_iff_ne.2 fun h => hafter (h ▸ hc)
  have htail : (before ++ '{' :: (inner ++ ['}']) ++ after).dropWhile (· != '{') =
      '{' :: (inner ++ ['}']) ++ after := by
    rw [List.append_assoc, List.dropWhile_append_of_pos hstart]
    rfl
  have hcut : Text.dropEndWhile (· != '}') ('{' :: (inner ++ ['}']) ++ after) =
      '{' :: (inner ++ ['}']) := by
    rw [dropEndWhile_of_all hend, ← List.cons_append]
    exact Text.dropEndWhile_append (by decide) (by simp) _
  rw [outermost?]
  simp only [htail, hcut]
  rfl

theorem exists_outermost {cs body : List Char} (h : outermost? cs = some body) :
    ∃ before after, cs = before ++ body ++ after ∧ '{' ∉ before ∧ Braced body ∧ '}' ∉ after := by
  simp only [outermost?] at h
  obtain ⟨hne, hbody⟩ : body ≠ [] ∧ Text.dropEndWhile (· != '}') (cs.dropWhile (· != '{')) = body := by
    split_ifs at h with hempty
    cases h
    exact ⟨fun hnil => hempty (List.isEmpty_iff.2 hnil), rfl⟩
  obtain ⟨front, last, after, rfl, htail, hafter, hlast⟩ := dropEndWhile_eq hbody hne
  -- What is cut out is the front of what begins with the first opening brace, so it begins with it as well.
  obtain ⟨first, inner, hfront⟩ := List.exists_cons_of_ne_nil hne
  rw [hfront, List.cons_append] at htail
  obtain ⟨before, hcs, hbefore, hfirst⟩ := dropWhile_eq_cons htail
  obtain rfl : first = '{' := by simpa using hfirst
  obtain rfl : last = '}' := by simpa using hlast
  refine ⟨before, after, ?_, fun hmem => ?_, ?_, fun hmem => ?_⟩
  · rw [hcs, hfront, List.append_assoc, List.cons_append]
  · exact absurd (hbefore _ hmem) (by decide)
  · cases front with
    | nil => exact absurd (List.cons.inj hfront).1 (by decide)
    | cons c front =>
      obtain ⟨rfl, -⟩ := List.cons.inj hfront
      exact ⟨front, List.cons_append⟩
  · exact absurd (hafter _ hmem) (by decide)

theorem outermost?_eq_some_iff {cs body : List Char} :
    outermost? cs = some body ↔
      ∃ before after, cs = before ++ body ++ after ∧ '{' ∉ before ∧ Braced body ∧ '}' ∉ after := by
  constructor
  · exact exists_outermost
  · rintro ⟨before, after, rfl, hbefore, hbody, hafter⟩
    exact outermost?_append hbefore hbody hafter

theorem braced_compact (members : List (String × Json)) : Braced (compact (.object members)).toList :=
  ⟨compactMembers members, by rw [compact, String.toList_ofList, compactChars]⟩

theorem braced_pretty (members : List (String × Json)) : Braced (pretty (.object members)).toList := by
  rw [pretty, String.toList_ofList]
  cases members with
  | nil => exact ⟨[], rfl⟩
  | cons m members => exact ⟨prettyMembers 1 (m :: members) ++ lineBreak 0, rfl⟩

/-! ## The object of a text -/

/-- Between the first opening brace of a text and the last closing one stands an object with these members. -/
def Holds (text : String) (members : List (String × Json)) : Prop :=
  ∃ before body after, text.toList = before ++ body ++ after ∧ '{' ∉ before ∧ Braced body ∧ '}' ∉ after ∧
    parse? (String.ofList body) = some (.object members)

def HoldsObject (text : String) : Prop := ∃ members, Holds text members

theorem holds_iff {text : String} {members : List (String × Json)} :
    Holds text members ↔
      ((outermost? text.toList).bind fun body => parse? (String.ofList body)) = some (.object members) := by
  rw [Option.bind_eq_some_iff]
  constructor
  · rintro ⟨before, body, after, htext, hbefore, hbody, hafter, hparse⟩
    exact ⟨body, outermost?_eq_some_iff.2 ⟨before, after, htext, hbefore, hbody, hafter⟩, hparse⟩
  · rintro ⟨body, hcut, hparse⟩
    obtain ⟨before, after, htext, hbefore, hbody, hafter⟩ := outermost?_eq_some_iff.1 hcut
    exact ⟨before, body, after, htext, hbefore, hbody, hafter, hparse⟩

/-- What is read between two braces is an object. -/
theorem holdsObject_iff (text : String) :
    HoldsObject text ↔
      ((outermost? text.toList).bind fun body => parse? (String.ofList body)).isSome = true := by
  rw [Option.isSome_iff_exists]
  constructor
  · rintro ⟨members, h⟩
    exact ⟨.object members, holds_iff.1 h⟩
  · rintro ⟨v, hv⟩
    obtain ⟨body, hcut, hparse⟩ := Option.bind_eq_some_iff.1 hv
    obtain ⟨before, after, -, -, ⟨inner, hinner⟩, -⟩ := outermost?_eq_some_iff.1 hcut
    obtain ⟨members, rfl⟩ := eq_object_of_parse? (String.toList_ofList.trans hinner) hparse
    exact ⟨members, holds_iff.2 hv⟩

instance (text : String) : Decidable (HoldsObject text) := decidable_of_iff _ (holdsObject_iff text).symm

theorem Insight.ofObjectReply_of_holds {text : String} {members : List (String × Json)} (h : Holds text members) :
    ofObjectReply text = ofObject (.object members) := by
  rw [ofObjectReply, holds_iff.1 h]

/-- A reply without an object says nothing. -/
theorem Insight.ofObjectReply_of_not_holdsObject {content : String} (h : ¬HoldsObject content) :
    Insight.ofObjectReply content = .empty := by
  rw [holdsObject_iff, Option.not_isSome_iff_eq_none] at h
  rw [Insight.ofObjectReply, h]

/-! ## The object -/

namespace Insight

def figures (r : Insight) : List Float :=
  [r.loadTimeImpact, r.databaseEfficiency, r.networkOptimization, r.potentialImprovement]

theorem ofFloat_of_isFinite {x : Float} (h : x.isFinite = true) : ofFloat x = .number (.float x) := if_pos h

/-- The list under the second key is read where there is none under the first. -/
theorem issueMember_of_absent {v : Json} {issues : List Issue} (absent : v.get? "issues" = none)
    (given : v.get? "additionalIssues" = some (.array (issues.map Issue.toJson))) :
    issueMember v = issues := by
  rw [issueMember, absent]
  simp only [given, Option.bind_some, list?_map Issue.ofJson?_toJson, Option.getD_some]

theorem ofObject_toJson {r : Insight} (finite : ∀ x ∈ r.figures, x.isFinite = true) :
    ofObject r.toJson = r := by
  simp only [figures, List.forall_mem_cons] at finite
  obtain ⟨hload, hdatabase, hnetwork, hpotential, -⟩ := finite
  have hissues : issueMember r.toJson = r.additionalIssues := issueMember_of_absent rfl rfl
  rw [ofObject, hissues, toJson, ofFloat_of_isFinite hload, ofFloat_of_isFinite hdatabase,
    ofFloat_of_isFinite hnetwork, ofFloat_of_isFinite hpotential]
  rfl

theorem legible_toJson {r : Insight} (finite : ∀ x ∈ r.figures, x.isFinite = true)
    (readsBack : ∀ x ∈ r.figures, (Number.float x).ReadsBack) : Legible 3 r.toJson := by
  have hfigure (x : Float) (hx : x ∈ r.figures) : Legible 2 (ofFloat x) := by
    rw [ofFloat_of_isFinite (finite x hx)]
    exact .number (readsBack x hx)
  have hissues : Legible 2 (.array (r.additionalIssues.map Issue.toJson)) := by
    refine .array fun v hv => ?_
    obtain ⟨i, -, rfl⟩ := List.mem_map.1 hv
    exact i.legible_toJson
  refine .object (by simp) ?_
  simp only [List.forall_mem_cons]
  exact ⟨hfigure _ (by simp [figures]), hfigure _ (by simp [figures]), hfigure _ (by simp [figures]),
    hfigure _ (by simp [figures]), hissues, by simp⟩

/-- An insight is read back from a text in which its object is cut out and read. -/
theorem ofObjectReply_of_parse? {before body after : String} {v : Json} (unopened : '{' ∉ before.toList)
    (hbody : Braced body.toList) (unclosed : '}' ∉ after.toList) (hparse : parse? body = some v) :
    ofObjectReply (before ++ body ++ after) = ofObject v := by
  rw [ofObjectReply, String.toList_append, String.toList_append, outermost?_append unopened hbody unclosed,
    Option.bind_some, String.ofList_toList, hparse]

/-- An insight is read back from the text of its object, with prose around it. -/
theorem ofObjectReply_written (r : Insight) (before after : String)
    (finite : ∀ x ∈ r.figures, x.isFinite = true)
    (readsBack : ∀ x ∈ r.figures, (Number.float x).ReadsBack)
    (unopened : '{' ∉ before.toList) (unclosed : '}' ∉ after.toList) :
    ofObjectReply (before ++ compact r.toJson ++ after) = r ∧
      ofObjectReply (before ++ pretty r.toJson ++ after) = r := by
  have hlegible : Legible 127 r.toJson := (legible_toJson finite readsBack).mono (by decide)
  have hcompact : Braced (compact r.toJson).toList := braced_compact _
  have hpretty : Braced (pretty r.toJson).toList := braced_pretty _
  rw [ofObjectReply_of_parse? unopened hcompact unclosed (parse?_compact hlegible),
    ofObjectReply_of_parse? unopened hpretty unclosed (parse?_pretty hlegible), ofObject_toJson finite]
  exact ⟨rfl, rfl⟩

end Insight

/-- An insight with braces, quotes and escapes in the texts of its issues. -/
def bracedInsight : Insight where
  loadTimeImpact := 12.5
  databaseEfficiency := -0.0
  networkOptimization := 1e21
  potentialImprovement := 0.1
  additionalIssues :=
    [{ severity := .critical, code := "\x7d\x7b", title := "\"quoted\" \\ and\nbroken",
       line := some 4294967295, suggestion := some "\x01 use \x7b all \x7d" },
      {}]

theorem bracedInsight_written :
    Insight.ofObjectReply ("Closed \x7d before: " ++ compact bracedInsight.toJson ++ " open \x7b after") =
        bracedInsight ∧
      Insight.ofObjectReply ("Closed \x7d before: " ++ pretty bracedInsight.toJson ++ " open \x7b after") =
        bracedInsight :=
  Insight.ofObjectReply_written bracedInsight _ _ (by decide +kernel) (by decide +kernel) (by decide)
    (by decide)

end Fanout
