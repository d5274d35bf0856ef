import Fanout.Impact.Metrics
import Fanout.Issue.Json

/-!
# Insights

What a remote model says of a source: four figures and further issues. The empty insight says
nothing.
-/

namespace Fanout
open Json

inductive ReplyFormat where
  /-- One JSON object. -/
  | json
  /-- Lines with labels, and a numbered list of issues. -/
  | labeled
  deriving Repr, DecidableEq, Inhabited

namespace ReplyFormat

def name : ReplyFormat → String
  | .json => "json"
  | .labeled => "labeled"

def ofName? (s : String) : Option ReplyFormat := [json, labeled].find? (·.name == s)

end ReplyFormat

structure Insight where
  loadTimeImpact : Float := 0
  databaseEfficiency : Float := 0
  networkOptimization : Float := 0
  potentialImprovement : Float := 0
  additionalIssues : List Issue := []
  deriving Repr, Inhabited

namespace Insight

def empty : Insight := {}

/-- Whether two insights say the same, where a figure that is no number equals none. -/
def same (a b : Insight) : Bool :=
  a.loadTimeImpact == b.loadTimeImpact && a.databaseEfficiency == b.databaseEfficiency &&
    a.networkOptimization == b.networkOptimization &&
    a.potentialImprovement == b.potentialImprovement && a.additionalIssues == b.additionalIssues

def isEmpty (r : Insight) : Bool := r.same empty

def toJson (r : Insight) : Json :=
  .object
    [("loadTimeImpact", ofFloat r.loadTimeImpact),
      ("databaseEfficiency", ofFloat r.databaseEfficiency),
      ("networkOptimization", ofFloat r.networkOptimization),
      ("potentialImprovement", ofFloat r.potentialImprovement),
      ("additionalIssues", .array (r.additionalIssues.map Issue.toJson))]

end Insight
end Fanout
