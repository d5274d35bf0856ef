import Fanout.Json.Writer
import Fanout.Report.Markdown
import Fanout.Review.Human

/-!
# Forms of output

A report is printed as JSON, as markdown or for people; a form that is not known is one for people
without colors.
-/

namespace Fanout

/-- Whether the form asked for may have colors. -/
def isHuman (form : String) : Bool := form == "human"

def printedJson (v : Json) : String := v.pretty ++ "\n"

/-- A report in a form; `colors` tells whether there may be colors at all. -/
def ScanReport.printed (form : String) (colors : Bool) (r : ScanReport) : String :=
  match form with
  | "json" => printedJson r.toJson
  | "markdown" | "md" => r.markdown
  | _ => r.human (colors && isHuman form)

def ReviewReport.printed (form : String) (colors : Bool) (r : ReviewReport) : String :=
  match form with
  | "json" => printedJson r.toJson
  | _ => r.human (colors && isHuman form)

end Fanout
