import Fanout.Report.Human
import Fanout.Text.Blank

/-!
# Reports in Markdown

`ScanReport.markdown` shows a report as a document. Files without issues are left out.
-/

namespace Fanout

def Severity.label : Severity → String
  | .critical => "🔴 critical"
  | .warning => "🟠 warning"
  | .info => "🔵 info"

def Issue.markdown (i : Issue) : String :=
  let place := match i.line? with
    | some n => s!" (line {n.toNat})"
    | none => ""
  ended ("- **" ++ i.severity.label ++ "** " ++ i.title ++ place ++ ": " ++ i.description) ++
    match i.suggestion with
    | some s => ended ("  - Suggestion: " ++ s)
    | none => ""

def Metrics.markdown (m : Metrics) : String :=
  ended "\n| Metric | Value |\n|---|---|" ++
    ended ("| Load time | " ++ m.loadTimeText ++ " |") ++
    ended ("| Database Load | " ++ m.databaseText ++ " |") ++
    ended ("| Network Requests | " ++ m.requestsText ++ " |") ++
    ended ("| Potential Improvement | " ++ m.improvementText ++ " |\n")

def fence : String := String.ofList (List.replicate 3 '\x60')

def inlineCode (text : String) : String := "\x60" ++ text ++ "\x60"

def Recommendation.markdown (r : Recommendation) : String :=
  ended ("#### " ++ r.title ++ "\n\n" ++ r.description ++ "\n") ++
    if r.exampleCode.isEmpty then ""
    else
      ended (fence ++ "typescript\n" ++ String.ofList (Text.trimEnd r.exampleCode.toList) ++ "\n" ++
        fence ++ "\n")

def criticalNotice : String :=
  "> **Critical performance issues detected.** These patterns may significantly slow down your application.\n"

def FileReport.markdown (f : FileReport) : String :=
  let r := f.result
  ended ("## " ++ inlineCode f.file ++ "\n") ++
    (if r.hasCritical then ended criticalNotice else "") ++
    String.join (r.issues.map Issue.markdown) ++ r.metrics.markdown ++
    if r.recommendations.isEmpty then ""
    else ended "### Recommendations\n" ++ String.join (r.recommendations.map Recommendation.markdown)

def Summary.markdown (s : Summary) : String :=
  ended "| Files | Critical | Warnings | Info |" ++ ended "|---|---|---|---|" ++
    ended s!"| {s.files} | {s.critical} | {s.warnings} | {s.infos} |\n"

def ScanReport.markdown (r : ScanReport) : String :=
  "# Performance Report\n\n" ++ r.summary.markdown ++
    String.join ((r.files.filter fun f => !f.result.issues.isEmpty).map FileReport.markdown)

end Fanout
