import Fanout.Decimal.Text
import Fanout.Report.Paint
import Fanout.Report.Scan
import Fanout.Text.Line

/-!
# Reports for people

`ScanReport.human` shows a report as lines for a terminal, with colors or without.
-/

namespace Fanout

/-- A text with a line feed behind it. -/
def ended (text : String) : String := text ++ "\n"

def linesOf (text : String) : List String := (Text.lines text.toList).map String.ofList

def Metrics.loadTimeText (m : Metrics) : String :=
  fixedText m.loadTime ++ "s current, " ++ fixedText m.improvedLoadTime ++ "s with changes"

def Metrics.requestsText (m : Metrics) : String :=
  plainText (roundAway m.networkRequests) ++ "+ per page load"

def Metrics.databaseText (m : Metrics) : String :=
  fixedText m.databaseLoad ++ "x higher than necessary"

def Metrics.improvementText (m : Metrics) : String :=
  plainText (roundAway m.potentialImprovement) ++ "%"

namespace Severity

def color : Severity → Color
  | .critical => .red
  | .warning => .yellow
  | .info => .blue

def icon : Severity → String
  | .critical => "✖"
  | .warning => "▲"
  | .info => "◆"

def badge : Severity → String
  | .critical => "⟦critical⟧"
  | .warning => "⟦warn⟧"
  | .info => "⟦info⟧"

end Severity

/-- The line of an issue, unless it stands for a whole file. -/
def Issue.line? (i : Issue) : Option UInt32 := i.line.filter (0 < ·)

/-- Where an issue is: its file and, if it has one, its line. -/
def Issue.placeText (file : String) (i : Issue) : String :=
  match i.line? with
  | some n => file ++ ":" ++ toString n.toNat
  | none => file

/-- An issue in one line, and its suggestion in another. -/
def Issue.human (colored : Bool) (file : String) (i : Issue) : String :=
  let color := i.severity.color
  let code := if i.code.isEmpty then "" else "❲" ++ i.code ++ "❳ "
  let description :=
    if !i.description.isEmpty && i.description != i.title then ": " ++ i.description else ""
  let suggestion := match i.suggestion with
    | some s => "\n    ↳ " ++ s
    | none => ""
  paint colored (plain color) i.severity.icon ++ " " ++
    paint colored (bold color) i.severity.badge ++ " " ++
    paint colored { bold := true } (i.placeText file) ++ " " ++ code ++ "— " ++ i.title ++
    description ++ suggestion

def criticalBanner : String :=
  "⚠ Critical performance issues detected: these patterns may significantly slow down your application."

def Recommendation.human (colored : Bool) (r : Recommendation) : String :=
  ended ("  💡 " ++ paint colored (bold .cyan) r.title ++ ": " ++ r.description) ++
    String.join ((linesOf r.exampleCode).map fun code =>
      ended ("      " ++ paint colored (plain .grey) code))

def FileReport.human (colored : Bool) (f : FileReport) : String :=
  let r := f.result
  if r.issues.isEmpty then ended (paint colored (bold .green) "✔ no issues:" ++ " " ++ f.file)
  else
    String.join (r.issues.map fun i => ended (i.human colored f.file)) ++
      (if r.hasCritical then ended ("  " ++ paint colored (bold .red) criticalBanner) else "") ++
      ended ("  Load time: " ++ r.metrics.loadTimeText) ++
      ended ("  Database Load: " ++ r.metrics.databaseText ++ " | Network Requests: " ++
        r.metrics.requestsText ++ " | Potential Improvement: " ++ r.metrics.improvementText) ++
      String.join (r.recommendations.map (Recommendation.human colored))

def Summary.human (s : Summary) : String :=
  s!"— Summary — critical={s.critical} warnings={s.warnings} infos={s.infos} files={s.files}"

def ScanReport.human (colored : Bool) (r : ScanReport) : String :=
  String.join (r.files.map (FileReport.human colored)) ++
    ended (paint colored { bold := true } r.summary.human)

end Fanout
