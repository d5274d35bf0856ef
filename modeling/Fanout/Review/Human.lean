import Fanout.Report.Human
import Fanout.Review.Process

/-!
# Review reports for people
-/

namespace Fanout

/-- The first line of a text. -/
def headline (text : String) : String := (linesOf text).headD ""

def Comment.human (colored dryRun : Bool) (c : Comment) : String :=
  let verb := if dryRun then "planned:" else "comment:"
  ended s!"{paint colored (bold .cyan) verb} {c.path}:{c.line.toNat} {headline c.body}"

def ReviewReport.summaryText (r : ReviewReport) : String :=
  s!"— Summary — scanned={r.filesScanned} skipped={r.filesSkipped} posted={r.commentsPosted} " ++
    s!"failures={r.failures.length}"

def ReviewReport.human (colored : Bool) (r : ReviewReport) : String :=
  String.join (r.comments.map (Comment.human colored r.dryRun)) ++
    String.join (r.failures.map fun f =>
      ended (paint colored (bold .red) "failed:" ++ " " ++ f)) ++
    ended (paint colored { bold := true } r.summaryText)

end Fanout
