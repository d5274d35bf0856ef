import Fanout.Grammar.Kind

/-!
# Expressions

* `binaryLevel?` : how tight an operator between two operands binds;
* `unary`, `primary`, `chainStep`, `binaryStep` : expressions from the inside out.

Assignments, arrow functions and `yield` stand where an operand may stand and take all that follows.
With types, a cast and a call with type arguments take together all that stands left of them.
-/

namespace Fanout.Grammar
open Rule

/-! ## Functions -/

def arrowBody : Rule := ahead fun a =>
  if a.char != '\x7b' then phrase .expression
  else
    let block := inBody (phrase .block)
    if a.afterChar.startsWord && (a.afterChar.afterWord).char == ':' then phrase .expression <|> block
    else block

def arrowFrom (head : Rule) : Rule := node "arrow_function" (head ++ mark "=>" ++ arrowBody)

def arrow : Rule := arrowFrom (phrase .callSignature)
def asyncArrow : Rule := arrowFrom (keyword "async" ++ phrase .callSignature)

/-- An arrow function whose parameters have a colon behind them. In a conditional expression the
colon of that expression has to follow it. -/
def annotatedArrow (a : Ahead) (r : Rule) : Rule :=
  if a.mode.consequence then r ++ peek (mark ":") else r

/-- What the bracket that comes next may start, by what stands behind its partner. -/
def arrowOr (l : Language) (a : Ahead) (bracket : Ahead) (r other : Rule) : Rule :=
  match bracket.afterPartner? with
  | none => other
  | some b =>
    if b.isOperator "=>" then r <|> other
    else if l.typed && b.isOperator ":" then annotatedArrow a r <|> other
    else other

def functionBody : Rule := inBody (phrase .block)

def functionHead (name : Rule) : Rule := name ++ phrase .callSignature ++ functionBody

/-- A function that starts with the word `function`, or with `async` before it. -/
def functionNode (plain generator : String) (name : Rule) : Rule := ahead fun a =>
  let isAsync := a.word == "async"
  let b := if isAsync then a.afterWord else a
  let star := b.afterWord.char == '*'
  let words := (if isAsync then keyword "async" else done) ++ keyword "function"
  if star then node generator (words ++ mark "*" ++ functionHead name)
  else node plain (words ++ functionHead name)

def functionExpression : Rule :=
  functionNode "function_expression" "generator_function" (maybe (word "identifier"))

/-! ## Classes -/

def heritage (l : Language) : Rule :=
  if l.typed then
    let typedCall := extend "call_expression" (.some .function)
      (phrase .typeArguments ++ field .arguments (phrase .arguments))
    let base := phrase .chain ++ many (typedCall ++ phrase .chainTail) ++
      maybe (phrase .typeArguments)
    let parents := node "extends_clause" (keyword "extends" ++ list base)
    let contracts := node "implements_clause" (keyword "implements" ++ list (phrase .type))
    onlyIf (fun a => a.word == "extends" || a.word == "implements")
      (node "class_heritage" (parents ++ maybe contracts <|> contracts))
  else
    onlyIf (·.word == "extends") (node "class_heritage" (keyword "extends" ++ phrase .expression))

def className (l : Language) : Rule := if l.typed then typeName else word "identifier"

def classTail (l : Language) (name : Rule) : Rule :=
  name ++ (if l.typed then maybe (phrase .typeParameters) else done) ++ heritage l ++ phrase .classBody

def decorators : Rule := many (phrase .decorator)

def classExpression (l : Language) : Rule :=
  let name := onlyIf (fun a => a.word != "extends" && a.word != "implements") (maybe (className l))
  node "class" (decorators ++ keyword "class" ++ classTail l name)

def methodBody : Rule := propertyName ++ maybe (mark "?") ++ phrase .callSignature ++ functionBody

def memberEnd (l : Language) : Rule :=
  mark ";" <|> lexeme (.statementEnd l.typed) <|> (if l.typed then mark "," else fail)

def staticBlock : Rule :=
  guard (fun a => a.word == "static" && a.afterWord.char == '\x7b')
    (node "class_static_block" (keyword "static" ++ functionBody))

def plainClassMember (l : Language) : Rule :=
  let method := node "method_definition" (decorators ++ modifier "static" ++ functionModifiers ++
    propertyName ++ phrase .callSignature ++ functionBody)
  let fieldDefinition := node "field_definition"
    (decorators ++ modifier "static" ++ propertyName ++ maybe initializer)
  mark ";" <|> staticBlock <|> method <|> (fieldDefinition ++ memberEnd l)

/-- The words before the name of a typed field, in any order. -/
def fieldModifiers : Rule := many (ahead fun a =>
  if !a.modifiesMember then fail
  else if isAccess a.word then accessModifier
  else if a.word == "override" then node "override_modifier" (keyword "override")
  else if ["declare", "static", "readonly", "abstract", "accessor"].contains a.word then keyword a.word
  else fail)

def typedClassMember (l : Language) : Rule :=
  let method := node "method_definition" (memberModifiers ++ functionModifiers ++ methodBody)
  let abstractMethod := node "abstract_method_signature"
    (onlyIf (fun a => isAccess a.word && a.modifiesMember) accessModifier ++ keyword "abstract" ++
      onlyIf (fun a => a.word == "override" && a.modifiesMember)
        (node "override_modifier" (keyword "override")) ++
      functionModifiers ++ propertyName ++ maybe (mark "?") ++ phrase .callSignature)
  let fieldDefinition := node "public_field_definition"
    (decorators ++ fieldModifiers ++ propertyName ++ maybe (mark "?" <|> mark "!") ++
      maybe typeAnnotation ++ maybe initializer)
  mark ";" <|> staticBlock <|> (decorators ++ method) <|> (decorators ++ methodSignature ++ memberEnd l) <|>
    (indexSignature ++ memberEnd l) <|> (decorators ++ abstractMethod ++ memberEnd l) <|>
    (fieldDefinition ++ memberEnd l)

def classBody (l : Language) : Rule :=
  let member := if l.typed then typedClassMember l else plainClassMember l
  node "class_body" (mark "\x7b" ++ inBody (many member) ++ mark "\x7d")

def decorator (l : Language) : Rule :=
  let member := guard (·.isOperator ".")
    (extend "member_expression" (.some .object) (mark "." ++ field .property (word "property_identifier")))
  let call := guard (fun a => a.char == '(' || a.char == '<')
    (extend "call_expression" (.some .function)
      ((if l.typed then maybe (phrase .typeArguments) else done) ++ field .arguments (phrase .arguments)))
  node "decorator" (mark "@" ++ ahead fun a =>
    if a.char == '(' then node "parenthesized_expression" (parenthesized (phrase .expressions))
    else word "identifier" ++ many member ++ maybe call)

/-! ## Brackets -/

def spread : Rule := node "spread_element" (mark "..." ++ phrase .expression)

def item : Rule := ahead fun a => if a.isOperator "..." then spread else phrase .expression

def arguments : Rule := node "arguments" (parenthesized (holedList item))
def array : Rule := node "array" (bracketed (holedList item))

def parenthesizedExpression (l : Language) : Rule :=
  node "parenthesized_expression"
    (parenthesized (phrase .expressions ++ (if l.typed then maybe typeAnnotation else done)))

def objectMethod : Rule := node "method_definition" (functionModifiers ++ methodBody)

def objectMember : Rule := ahead fun a =>
  let pair := node "pair" (propertyName ++ mark ":" ++ phrase .expression)
  let byNext (b : Ahead) : Rule :=
    if b.char == ':' then pair
    else if b.char == '(' || b.char == '<' then objectMethod
    else word "shorthand_property_identifier"
  let w := a.word
  if a.isOperator "..." then spread
  else if a.char == '*' then objectMethod
  else if a.char == '[' then
    match a.afterPartner? with
    | some b => if b.char == ':' then pair else objectMethod
    | none => pair
  else if w.isEmpty then pair <|> objectMethod
  else if (w == "get" || w == "set" || w == "async") && (a.afterWord.startsName || a.afterWord.char == '*') then
    objectMethod
  else byNext a.afterWord

def object : Rule := node "object" (braced (holedList objectMember))

/-! ## Operands -/

/-- Whether the bracket that comes next is the left side of an assignment. -/
def Ahead.startsAssignment (a : Ahead) : Bool :=
  (a.afterPartner?.map (·.isOperator "=")).getD false

def yieldExpression (l : Language) : Rule :=
  node "yield_expression" (keyword "yield" ++ ahead fun a =>
    if a.char == '*' then mark "*" ++ phrase .expression
    else if a.mode.softEnd && Lexeme.endsBefore l.typed a.source a.next a.broken then done
    else maybe (phrase .expression))

/-- A constructor: members and templates belong to it, arguments do not. -/
def constructed : Rule :=
  many (ahead fun a =>
    if a.isOperator "." then
      extend "member_expression" (.some .object)
        (mark "." ++ field .property (privateName <|> word "property_identifier"))
    else if a.char == '[' then extend "subscript_expression" none (bracketed (phrase .expressions))
    else if a.char == '\x60' then
      extend "call_expression" (.some .function) (field .arguments (phrase .template))
    else fail)

def newExpression (l : Language) : Rule := ahead fun a =>
  let b := a.afterWord
  if b.isOperator "." then node "meta_property" (keyword "new" ++ mark "." ++ keyword "target")
  else
    node "new_expression" (keyword "new" ++ phrase .primary ++ constructed ++
      (if l.typed then onlyIf (·.char == '<') (maybe (phrase .typeArguments)) else done) ++
      onlyIf (·.char == '(') (phrase .arguments))

def importOperand : Rule := ahead fun a =>
  if a.afterWord.isOperator "." then node "meta_property" (keyword "import" ++ mark "." ++ keyword "meta")
  else leaf "import"

def asyncOperand (l : Language) (a : Ahead) : Rule :=
  let b := a.afterWord
  let name := word "identifier"
  if b.word == "function" && !b.broken then functionExpression
  else if b.isOperator "=>" then arrowFrom name
  else if b.startsWord && !b.broken && b.afterWord.isOperator "=>" then
    arrowFrom (keyword "async" ++ name)
  else if b.char == '(' then arrowOr l a b asyncArrow name
  else if l.typed && b.char == '<' then asyncArrow <|> name
  else name

/-- Words that start an expression of another kind and so are no operands. -/
def operatorWords : List String := ["typeof", "void", "delete", "await"]

def wordOperand (l : Language) (a : Ahead) : Rule :=
  match a.word with
  | "function" => functionExpression
  | "async" => asyncOperand l a
  | "class" => classExpression l
  | "new" => newExpression l
  | "this" | "super" | "true" | "false" | "null" | "undefined" => leaf a.word
  | "import" => importOperand
  | "yield" => yieldExpression l
  | w =>
    if operatorWords.contains w then fail
    else if a.afterWord.isOperator "=>" then arrowFrom (word "identifier")
    else word "identifier"

/-- An operand without what may stand behind it. -/
def primary (l : Language) : Rule := ahead fun a =>
  match a.char with
  | '(' => arrowOr l a a arrow (parenthesizedExpression l)
  | '[' => if a.startsAssignment then arrayPattern else phrase .array
  | '\x7b' => if a.startsAssignment then objectPattern else phrase .object
  | '"' | '\'' => phrase .string
  | '\x60' => phrase .template
  | '/' => regex
  | '@' => classExpression l
  | '#' => privateName ++ peek (keyword "in")
  | '<' => if !l.markup then fail else if l.typed then arrow <|> phrase .element else phrase .element
  | c => if Source.isDigit c || c == '.' then lexeme .number else wordOperand l a

/-! ## Behind an operand -/

def memberName : Rule := field .property (privateName <|> word "property_identifier")

def chainMark : Rule := node "optional_chain" (mark "?.")

def callWith (inner : Rule) : Rule := extend "call_expression" (.some .function) inner

def chainStep (l : Language) : Rule := ahead fun a =>
  match a.char with
  | '.' => extend "member_expression" (.some .object) (mark "." ++ memberName)
  | '(' => callWith (field .arguments (phrase .arguments))
  | '[' => extend "subscript_expression" none (bracketed (phrase .expressions))
  | '\x60' => callWith (field .arguments (phrase .template))
  | '?' =>
    if !a.isOperator "?." then fail
    else
      match (a.afterChar 2).char with
      | '(' => callWith (chainMark ++ field .arguments (phrase .arguments))
      | '[' => extend "subscript_expression" none (chainMark ++ bracketed (phrase .expressions))
      | '<' =>
        if l.typed then
          callWith (chainMark ++ phrase .typeArguments ++ field .arguments (phrase .arguments))
        else fail
      | _ => extend "member_expression" (.some .object) (chainMark ++ memberName)
  | '+' =>
    if a.isOperator "++" && !a.ends then extend "update_expression" none (mark "++") else fail
  | '-' =>
    if a.isOperator "--" && !a.ends then extend "update_expression" none (mark "--") else fail
  | _ => fail

def augmentedOperators : List String :=
  ["+=", "-=", "*=", "/=", "%=", "^=", "&=", "|=", ">>=", ">>>=", "<<=", "**=", "&&=", "||=", "??="]

/-- An assignment to the node left last, if it is one that can be assigned to. -/
def assignmentTail : Rule := ahead fun a =>
  if !isAssignable a.last then done
  else
    let op := a.operator
    if op == "=" then extend "assignment_expression" none (mark "=" ++ phrase .expression)
    else if augmentedOperators.contains op && isUpdatable a.last then
      extend "augmented_assignment_expression" none (mark op ++ phrase .expression)
    else done

def operand : Rule := phrase .chain ++ assignmentTail

def unary (l : Language) : Rule := ahead fun a =>
  let operated (op : Rule) := node "unary_expression" (op ++ phrase .unary)
  match a.char with
  | '!' | '~' => operated (mark (a.char.toString))
  | '+' | '-' =>
    if a.char 1 == a.char then node "update_expression" (mark a.operator ++ phrase .unary)
    else operated (mark (a.char.toString))
  | '<' =>
    if l.typed && !l.markup then arrow <|> node "type_assertion" (phrase .typeArguments ++ phrase .unary)
    else phrase .operand
  | _ =>
    match a.word with
    | "typeof" | "void" | "delete" => operated (keyword a.word)
    | "await" =>
      node "await_expression" (keyword "await" ++
        if l.typed then within (fun m => { m with level := 99, casts := true }) (phrase .unary ++ phrase .binaryTail)
        else phrase .unary)
    | _ => phrase .operand

/-! ## Between operands -/

/-- Operators between two operands, from loose to tight. -/
def binaryOperators : List (List String) :=
  [["??"], ["||"], ["&&"], ["|"], ["^"], ["&"], ["==", "!=", "===", "!=="],
    ["<", "<=", ">", ">=", "in", "instanceof"], ["<<", ">>", ">>>"], ["+", "-"], ["*", "/", "%"], ["**"]]

/-- The level of the operator that comes next, counted from one, and its text. -/
def binaryLevel? (a : Ahead) : Option (String × Nat) :=
  let op := if a.startsWord then a.word else a.operator
  let i := binaryOperators.findIdx (·.contains op)
  if i < binaryOperators.length then some (op, i + 1) else none

/-- Operators of the tightest level take together what stands right of them. -/
def rightLevel (op : String) (level : Nat) : Nat := if op == "**" then level else level + 1

def conditional : Rule :=
  extend "ternary_expression" none
    (mark "?" ++ within (fun m => { m with consequence := true }) (phrase .expression) ++ mark ":" ++
      phrase .expression)

/-- Whether an operand cannot follow, so that type arguments stand for themselves. -/
def Ahead.endsInstance (a : Ahead) : Bool :=
  a.broken || [')', ']', ',', ';', '\x7d', ':', '\x00', '.'].contains a.char

def typedCall : Rule :=
  callWith (phrase .typeArguments ++ field .arguments (ahead fun a =>
    if a.char == '(' then phrase .arguments else if a.char == '\x60' then phrase .template else fail)) ++
    phrase .chainTail

def instantiation : Rule :=
  extend "instantiation_expression" none (phrase .typeArguments ++ guard (·.endsInstance) done) ++
    phrase .chainTail

def binaryStep (l : Language) : Rule := ahead fun a =>
  let mayCast := l.typed && a.mode.casts && !a.ends
  if mayCast && a.isOperator "!" then
    extend "non_null_expression" none (mark "!") ++ phrase .chainTail ++ assignmentTail
  else if mayCast && a.word == "as" then
    extend "as_expression" none
      (keyword "as" ++ ahead fun b => if b.word == "const" then keyword "const" else phrase .type)
  else if mayCast && a.word == "satisfies" then
    extend "satisfies_expression" none (keyword "satisfies" ++ phrase .type)
  else if a.mode.level == 0 && a.isOperator "?" then conditional
  else
    match binaryLevel? a with
    | none => fail
    | some (op, level) =>
      if level < a.mode.level then fail
      else
        let right := within
          (fun m => { m with level := rightLevel op level, casts := op == "**" }) (phrase .binary)
        let plain := extend "binary_expression" none
          ((if a.startsWord then keyword op else mark op) ++ right)
        if l.typed && op == "<" then typedCall <|> instantiation <|> plain else plain

def expression : Rule := within (fun m => { m with level := 0, casts := true }) (phrase .binary)

def expressions : Rule :=
  phrase .expression ++ ahead fun a =>
    if a.char == ',' then extend "sequence_expression" none (repeated (mark "," ++ phrase .expression))
    else done

end Fanout.Grammar
