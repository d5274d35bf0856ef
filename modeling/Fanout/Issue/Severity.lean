import Fanout.Text.Ascii
import Fanout.Text.Blank

/-!
# Severities

Three levels of weight. A label is read without regard to the blanks around it and to the case of
its letters; a label that is not known reads as the lowest level.
-/

namespace Fanout

inductive Severity where
  | info
  | warning
  | critical
  deriving Repr, DecidableEq, Inhabited

namespace Severity

def name : Severity → String
  | .info => "info"
  | .warning => "warning"
  | .critical => "critical"

def ofLabel (label : String) : Severity :=
  match String.ofList (Text.lowerAscii (Text.trim label.toList)) with
  | "critical" => .critical
  | "warning" | "warn" => .warning
  | _ => .info

theorem ofLabel_name (s : Severity) : ofLabel s.name = s := by
  cases s <;> decide +kernel

end Severity
end Fanout
