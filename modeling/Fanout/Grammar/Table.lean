import Fanout.Grammar.Machine
import Fanout.Grammar.Markup
import Fanout.Grammar.Statement

/-!
# The grammars

`phrases` gives the rule of every phrase in a language.
-/

namespace Fanout.Grammar
open Rule

def phrases (l : Language) : Phrase → Rule
  | .program => program
  | .statement => statement l
  | .block => block
  | .expressions => expressions
  | .expression => expression
  | .binary => phrase .unary ++ phrase .binaryTail
  | .binaryTail => many (binaryStep l)
  | .unary => unary l
  | .operand => operand
  | .primary => primary l
  | .chain => phrase .primary ++ phrase .chainTail
  | .chainTail => many (chainStep l)
  | .pattern => pattern
  | .arguments => arguments
  | .callSignature => callSignature l
  | .classBody => classBody l
  | .decorator => decorator l
  | .template => template
  | .string => string
  | .object => object
  | .array => array
  | .type => anyType
  | .union => unionType
  | .intersection => meetType
  | .plainType => bracketedType l
  | .typeArguments => typeArguments
  | .typeParameters => typeParameters
  | .objectType => objectTypeBody l
  | .element => element l

end Fanout.Grammar
