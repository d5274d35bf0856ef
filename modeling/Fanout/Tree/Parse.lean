import Fanout.Concrete.Cursor
import Fanout.Source.Language
import Fanout.Tree.Lowering

/-!
# From a source text to its syntax tree

* `TreeReader` : what reads a text into its concrete tree;
* `parse` : the syntax tree of a text, or why there is none.
-/

namespace Fanout

/-- What reads texts into concrete trees. Nothing is asked of the trees that it reads. -/
class TreeReader where
  read : Language → String → Concrete

inductive ParseError where
  | syntaxError (place : Location)
  | tooDeep (e : Concrete.TooDeep)
  deriving Repr, DecidableEq

def ParseError.message : ParseError → String
  | .syntaxError place =>
    s!"syntax error at line {place.line.toNat}, column {place.column.toNat}"
  | .tooDeep e => s!"nesting deeper than {e.limit} levels at line {e.line.toNat}"

/-- The syntax tree of a concrete tree, unless an error lies in it or it is too deep. -/
def treeOf (c : Concrete) : Except ParseError Node :=
  if c.hasError then
    .error (.syntaxError ((c.firstBroken?.map Concrete.place).getD ⟨0, 0⟩))
  else
    match c.lower with
    | .ok n => .ok n
    | .error e => .error (.tooDeep e)

def parse [TreeReader] (language : Language) (text : String) : Except ParseError Node :=
  treeOf (TreeReader.read language text)

end Fanout
