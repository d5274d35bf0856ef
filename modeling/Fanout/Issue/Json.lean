import Fanout.Issue.Basic
import Fanout.Json.Reader
import Fanout.Json.Record

/-!
# Issues in JSON

An issue is written with the parts it has. It may be read from less: every part has a default, and
severity and description have a second key each.
-/

namespace Fanout
open Json

namespace Severity

def toJson (s : Severity) : Json := .string s.name

def ofJson? (v : Json) : Option Severity := v.string?.map ofLabel

end Severity

namespace Issue

def ofWord (n : UInt32) : Json := ofNat n.toNat

def toJson (i : Issue) : Json :=
  members
    [("severity", some i.severity.toJson), ("code", some (.string i.code)),
      ("title", some (.string i.title)), ("description", some (.string i.description)),
      ("line", i.line.map ofWord), ("column", i.column.map ofWord), ("file", i.file.map .string),
      ("suggestion", i.suggestion.map .string), ("impact", i.impact.map ofWord)]

/-- The keys of an issue's parts, in the order of a list of parts. -/
def keys : List (List String) :=
  [["severity", "type"], ["code"], ["title"], ["description", "message"], ["line"], ["column"],
    ["file"], ["suggestion"], ["impact"]]

def ofJson? (v : Json) : Option Issue := do
  match ← record? keys v with
  | [severity, code, title, description, line, column, file, suggestion, impact] =>
    some {
      severity := ← defaulted? Severity.ofJson? .info severity
      code := ← defaulted? string? "" code
      title := ← defaulted? string? "" title
      description := ← defaulted? string? "" description
      line := ← optional? word? line
      column := ← optional? word? column
      file := ← optional? string? file
      suggestion := ← optional? string? suggestion
      impact := ← optional? word? impact }
  | _ => none

def ofText? (text : String) : Option Issue := (parseRaw? text).bind ofJson?

end Issue
end Fanout
