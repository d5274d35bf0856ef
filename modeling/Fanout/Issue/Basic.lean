import Fanout.Issue.Severity

/-!
# Issues

An issue says what was found, where, and what may be done about it. Every part but the first four
may be left out.
-/

namespace Fanout

structure Issue where
  severity : Severity := .info
  code : String := ""
  title : String := ""
  description : String := ""
  line : Option UInt32 := none
  column : Option UInt32 := none
  file : Option String := none
  suggestion : Option String := none
  impact : Option UInt32 := none
  deriving Repr, DecidableEq, Inhabited

def countOf (severity : Severity) (issues : List Issue) : Nat :=
  issues.countP (·.severity == severity)

def anyCritical (issues : List Issue) : Bool := issues.any (·.severity == .critical)

end Fanout
