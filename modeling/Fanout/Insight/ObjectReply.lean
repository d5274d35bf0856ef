import Fanout.Insight.Basic
import Fanout.Insight.Figure
import Fanout.Json.Reader

/-!
# Replies that are one JSON object

* `outermost?` : a text from its first opening brace to its last closing one;
* `Insight.ofObjectReply` : what the object says. A figure may be a number or a text; the list of
  issues is read as a whole or not at all.
-/

namespace Fanout
open Json

/-- The text from the first opening brace to the last closing one behind it. -/
def outermost? (text : List Char) : Option (List Char) :=
  let tail := text.dropWhile (· != '\x7b')
  let cut := Text.dropEndWhile (· != '\x7d') tail
  if cut.isEmpty then none else some cut

def figureMember (v : Json) (key : String) : Float :=
  match v.get? key with
  | some (.number n) => n.toFloat
  | some (.string s) => figureOfText s.toList
  | _ => 0

/-- The issues under the first of two keys that is there. -/
def issueMember (v : Json) : List Issue :=
  let list := match v.get? "issues" with
    | some x => some x
    | none => v.get? "additionalIssues"
  ((list.bind (list? Issue.ofJson?)).getD [])

def Insight.ofObject (v : Json) : Insight where
  loadTimeImpact := figureMember v "loadTimeImpact"
  databaseEfficiency := figureMember v "databaseEfficiency"
  networkOptimization := figureMember v "networkOptimization"
  potentialImprovement := figureMember v "potentialImprovement"
  additionalIssues := issueMember v

def Insight.ofObjectReply (text : String) : Insight :=
  match (outermost? text.toList).bind fun body => parse? (String.ofList body) with
  | some v => .ofObject v
  | none => .empty

end Fanout
