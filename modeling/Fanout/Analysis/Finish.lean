import Fanout.Insight.Merge
import Fanout.Tree.Parse

/-!
# Analysis of one source

* `findSourceIssues` : what the rules find in a source, or why it has no syntax tree;
* `LocalOutcome` : the same, where a failure has become an issue;
* `finish` : the result of a local outcome and perhaps an insight.
-/

namespace Fanout

def findSourceIssues [TreeReader] (language : Language) (file : Option String) (text : String) :
    Except ParseError (List Issue) :=
  (parse language text).map fun root => findIssues root file

/-- What the local half of an analysis comes to. -/
inductive LocalOutcome where
  | matched (issues : List Issue)
  | failed (issue : Issue)
  deriving Repr

def errorIssue (reason : String) (file : Option String) : Issue where
  severity := .warning
  code := "ANALYSIS_ERROR"
  title := "Analysis Error"
  description := if reason.isEmpty then "Failed to analyze code" else reason
  line := some 0
  file := file

def LocalOutcome.ofFound (file : Option String) : Except ParseError (List Issue) → LocalOutcome
  | .ok issues => .matched issues
  | .error e => .failed (errorIssue e.message file)

def runLocal [TreeReader] (language : Language) (file : Option String) (text : String) : LocalOutcome :=
  .ofFound file (findSourceIssues language file text)

def finish (outcome : LocalOutcome) (remote : Option Insight) (model : LoadTimeModel) : Result :=
  match outcome, remote with
  | .matched issues, none =>
    let metrics := Metrics.synthesize issues model
    ⟨issues, metrics, advise issues metrics⟩
  | .matched issues, some r => merge issues r model
  | .failed issue, none => ⟨[issue], .zero, []⟩
  | .failed issue, some r =>
    let metrics := Metrics.zero.overriddenBy r
    ⟨issue :: r.additionalIssues, metrics, advise r.additionalIssues metrics⟩

structure AnalyzeOptions where
  language : Language := .tsx
  file : Option String := none
  model : LoadTimeModel := .perIssue
  /-- What a remote model says of a source, if one is asked. -/
  provider : Option (String → Insight) := none

def analyze [TreeReader] (o : AnalyzeOptions) (text : String) : Result :=
  finish (runLocal o.language o.file text) (o.provider.map (· text)) o.model

end Fanout
