import Fanout.Impact.Advice
import Fanout.Issue.Json

/-!
# Results

The issues of one source, its figures and what is recommended.
-/

namespace Fanout
open Json

structure Result where
  issues : List Issue
  metrics : Metrics
  recommendations : List Recommendation
  deriving Repr, Inhabited

namespace Result

def count (r : Result) (severity : Severity) : Nat := countOf severity r.issues

def hasCritical (r : Result) : Bool := anyCritical r.issues

def fields (r : Result) : List (String × Json) :=
  [("issues", .array (r.issues.map Issue.toJson)), ("metrics", r.metrics.toJson),
    ("recommendations", .array (r.recommendations.map Recommendation.toJson))]

def toJson (r : Result) : Json := .object r.fields

def ofJson? (v : Json) : Option Result := do
  match ← record? [["issues"], ["metrics"], ["recommendations"]] v with
  | [issues, metrics, recommendations] =>
    some {
      issues := ← required? (list? Issue.ofJson?) issues
      metrics := ← required? Metrics.ofJson? metrics
      recommendations := ← required? (list? Recommendation.ofJson?) recommendations }
  | _ => none

end Result
end Fanout
