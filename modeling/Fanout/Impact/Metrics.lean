import Fanout.Issue.Basic
import Fanout.Json.Record

/-!
# Metrics

Four estimated figures, each a linear function of the number of critical issues.

* `Metrics.synthesize` : the figures of a list of issues;
* `Metrics.improvedLoadTime` : the load time once the improvement has been made.
-/

namespace Fanout
open Json

structure Metrics where
  /-- Seconds. -/
  loadTime : Float
  /-- A multiple of the load with batched requests. -/
  databaseLoad : Float
  networkRequests : Float
  /-- Percent. -/
  potentialImprovement : Float
  deriving Repr, Inhabited

/-- Whether critical issues add to the load time. -/
inductive LoadTimeModel where
  | perIssue
  | flat
  deriving Repr, DecidableEq, Inhabited

namespace LoadTimeModel

def name : LoadTimeModel → String
  | .perIssue => "per-issue"
  | .flat => "flat"

def ofName? (s : String) : Option LoadTimeModel := [perIssue, flat].find? (·.name == s)

end LoadTimeModel

namespace Metrics

def zero : Metrics := ⟨0, 0, 0, 0⟩

def baseLoadTime : Float := 2.8
def loadTimePerCritical : Float := 0.5
def databaseLoadPerCritical : Float := 1.5
def requestsPerCritical : Float := 15
def improvementPerCritical : Float := 20
def largestImprovement : Float := 80

/-- The smaller of two numbers. -/
def least (a b : Float) : Float := if b < a then b else a

def ofCount (critical : Nat) (model : LoadTimeModel) : Metrics :=
  let k := Float.ofNat critical
  { loadTime := match model with
      | .perIssue => baseLoadTime + loadTimePerCritical * k
      | .flat => baseLoadTime
    databaseLoad := databaseLoadPerCritical * k
    networkRequests := requestsPerCritical * k
    potentialImprovement := least (improvementPerCritical * k) largestImprovement }

def synthesize (issues : List Issue) (model : LoadTimeModel) : Metrics :=
  ofCount (countOf .critical issues) model

def improvedLoadTime (m : Metrics) : Float := m.loadTime * (1 - m.potentialImprovement / 100)

def toJson (m : Metrics) : Json :=
  .object
    [("loadTime", ofFloat m.loadTime), ("databaseLoad", ofFloat m.databaseLoad),
      ("networkRequests", ofFloat m.networkRequests),
      ("potentialImprovement", ofFloat m.potentialImprovement)]

def ofJson? (v : Json) : Option Metrics := do
  match ← record? [["loadTime"], ["databaseLoad"], ["networkRequests"], ["potentialImprovement"]] v with
  | [loadTime, databaseLoad, networkRequests, potentialImprovement] =>
    some {
      loadTime := ← required? float? loadTime
      databaseLoad := ← required? float? databaseLoad
      networkRequests := ← required? float? networkRequests
      potentialImprovement := ← required? float? potentialImprovement }
  | _ => none

end Metrics
end Fanout
