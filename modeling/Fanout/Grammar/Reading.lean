import Fanout.Grammar.Repair
import Fanout.Tree.Parse

/-!
# Reading by the grammars

* `Concrete.ofSource` : the concrete tree of a text, with an error node where the text has no parse;
* `grammarReader` : the reader that reads such trees.
-/

namespace Fanout
namespace Concrete

/-- A program made of its statements and comments. -/
def program (stop : Source.Cursor) (children : List Concrete) : Concrete :=
  let start := match children with
    | [] => stop.point
    | c :: _ => c.label.start
  ofChildren { kind := "program", start } children

/-- A program that is an error as a whole, with the error at a place. -/
def failed (place : Point) : Concrete :=
  program .start [leaf { kind := "ERROR", start := place, error := true }]

def ofSource (language : Language) (text : String) : Concrete :=
  let source := Source.ofString text
  match Grammar.read (Grammar.phrases language) source with
  | .accepted out stop => program stop out.reverse
  | .stuck reach => failed (Grammar.firstRepair language source reach).point

end Concrete

instance grammarReader : TreeReader := ⟨Concrete.ofSource⟩

end Fanout
