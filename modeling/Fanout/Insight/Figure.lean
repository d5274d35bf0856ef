import Fanout.Decimal.Reading
import Fanout.Text.Blank

/-!
# Figures in replies

A model may write a figure with a percent sign or as words. Whatever is no finite number reads as
zero.
-/

namespace Fanout

/-- The figure that a text spells, perhaps with percent signs behind it. -/
def figureOfText (text : List Char) : Float :=
  match floatOfText? (Text.trim (Text.dropEndWhile (· == '%') (Text.trim text))) with
  | some x => if x.isFinite then x else 0
  | none => 0

end Fanout
