import Fanout.Grammar.Literal
import Fanout.Source.Language

/-!
# Patterns and parameters

Rules for the left sides of assignments and declarations, and for lists of parameters. With types, a
parameter is wrapped in a node of its own.
-/

namespace Fanout.Grammar
open Rule

/-- What may stand on the left of an assignment, by the kind of its node. -/
def isAssignable (kind : String) : Bool :=
  ["member_expression", "subscript_expression", "identifier", "undefined", "parenthesized_expression",
    "object_pattern", "array_pattern", "non_null_expression"].contains kind

/-- What may stand on the left of an assignment that also operates. -/
def isUpdatable (kind : String) : Bool :=
  isAssignable kind && kind != "object_pattern" && kind != "array_pattern" && kind != "undefined"

/-- A rule that accepts the empty text where the node left last satisfies `p`. -/
def lastIs (p : String → Bool) : Rule := guard (fun a => p a.last) done

def initializer : Rule := mark "=" ++ phrase .expression

def defaulted (kind : String) (item : Rule) : Rule :=
  item ++ maybe (extend kind none initializer)

def restPattern : Rule := node "rest_pattern" (mark "..." ++ phrase .pattern)

def objectPattern : Rule :=
  node "object_pattern" (braced (holedList (ahead fun a =>
    if a.isOperator "..." then restPattern
    else
      node "pair_pattern"
        (propertyName ++ mark ":" ++ defaulted "assignment_pattern" (phrase .pattern)) <|>
      defaulted "object_assignment_pattern" (word "shorthand_property_identifier_pattern"))))

def arrayPattern : Rule :=
  node "array_pattern" (bracketed (holedList (defaulted "assignment_pattern" (phrase .pattern))))

def destructuring : Rule := ahead fun a =>
  match a.char with
  | '\x7b' => objectPattern
  | '[' => arrayPattern
  | _ => fail

/-- Whether the bracket that comes next starts a pattern and not a longer expression. -/
def Ahead.closesPattern (a : Ahead) : Bool :=
  match a.afterPartner? with
  | some b => b.char != '.' && b.char != '[' && b.char != '('
  | none => true

def pattern : Rule := ahead fun a =>
  if a.isOperator "..." then restPattern
  else if (a.char == '\x7b' || a.char == '[') && a.closesPattern then destructuring
  else phrase .chain ++ lastIs isAssignable

def binding : Rule := ahead fun a =>
  if a.char == '\x7b' || a.char == '[' then destructuring else word "identifier"

def typeAnnotation : Rule := node "type_annotation" (mark ":" ++ phrase .type)

def Ahead.modifiesParameter (a : Ahead) : Bool :=
  let b := a.afterWord
  b.startsWord || b.char == '\x7b' || b.char == '['

def accessModifier : Rule :=
  node "accessibility_modifier" (keyword "public" <|> keyword "private" <|> keyword "protected")

def isAccess (w : String) : Bool := w == "public" || w == "private" || w == "protected"

def parameterModifiers : Rule :=
  onlyIf (fun a => isAccess a.word && a.modifiesParameter) accessModifier ++
  onlyIf (fun a => a.word == "override" && a.modifiesParameter) (node "override_modifier" (keyword "override")) ++
  onlyIf (fun a => a.word == "readonly" && a.modifiesParameter) (keyword "readonly")

def typedParameter : Rule :=
  let name := many (phrase .decorator) ++ parameterModifiers ++
    ahead fun a => if a.word == "this" then leaf "this" else phrase .pattern
  let rest := maybe typeAnnotation ++ maybe initializer
  node "optional_parameter" (name ++ mark "?" ++ rest) <|> node "required_parameter" (name ++ rest)

def parameter (l : Language) : Rule :=
  if l.typed then typedParameter else defaulted "assignment_pattern" (phrase .pattern)

def parameters (l : Language) : Rule :=
  node "formal_parameters" (parenthesized (maybe (trailedList (parameter l))))

/-- What a function's type says behind the colon. -/
def returnAnnotation : Rule :=
  let subject := leaf "this" <|> word "identifier"
  let predicate := node "type_predicate" (subject ++ keyword "is" ++ phrase .type)
  ahead fun a =>
    if !a.isOperator ":" then fail
    else
      let b := a.afterChar
      let c := b.afterWord
      if b.word == "asserts" && c.startsWord && !c.broken then
        node "asserts_annotation" (mark ":" ++ node "asserts" (keyword "asserts" ++ (predicate <|> subject)))
      else if b.startsWord && c.word == "is" && !c.broken then
        node "type_predicate_annotation" (mark ":" ++ predicate)
      else typeAnnotation

/-- The parameters of a function and, with types, what stands around them. -/
def callSignature (l : Language) : Rule :=
  if l.typed then maybe (phrase .typeParameters) ++ parameters l ++ maybe returnAnnotation
  else parameters l

end Fanout.Grammar
