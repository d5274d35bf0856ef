/-!
# Lines of a text

* `lines` : the lines of a text. A line ends at a line feed, and a carriage return right before the
  line feed belongs to the line's end. A text that ends in a line feed has no empty line after it.
* `cutOnce` : a text cut at the first place where a given text stands.
-/

namespace Fanout.Text

/-- A line without the carriage return that stands before its line feed. -/
def dropReturn (line : List Char) : List Char :=
  if line.getLast? = some '\r' then line.dropLast else line

/-- The lines still to come, where `line` is the reversed line being read. -/
def linesFrom (line : List Char) : List Char → List (List Char)
  | [] => if line.isEmpty then [] else [line.reverse]
  | '\n' :: cs => dropReturn line.reverse :: linesFrom [] cs
  | c :: cs => linesFrom (c :: line) cs

def lines (cs : List Char) : List (List Char) := linesFrom [] cs

/-- What stands before and after the first occurrence of `mark`. -/
def cutOnce (mark : List Char) : List Char → Option (List Char × List Char)
  | [] => if mark.isEmpty then some ([], []) else none
  | c :: cs =>
    if mark.isPrefixOf (c :: cs) then some ([], (c :: cs).drop mark.length)
    else (cutOnce mark cs).map fun (before, after) => (c :: before, after)

end Fanout.Text
