import Fanout.Grammar.Pattern

/-!
# Types

Rules for what stands behind the colon of an annotation. From loose to tight: a conditional type, a
union, an intersection, a type with brackets behind it.
-/

namespace Fanout.Grammar
open Rule

def typeName : Rule := word "type_identifier"

/-- A name with dots whose last part is a type: what stands left of the last dot names modules. -/
def nestedTypeName : Rule :=
  let property := word "property_identifier"
  let twoMore : Ahead → Bool := fun a =>
    a.isOperator "." && (a.afterChar.afterWord).isOperator "."
  let threeMore : Ahead → Bool := fun a =>
    twoMore a && ((a.afterChar.afterWord).afterChar.afterWord).isOperator "."
  word "identifier" ++
    many (guard threeMore (extend "member_expression" (.some .object) (mark "." ++ field .property property))) ++
    onlyIf twoMore (extend "nested_identifier" none (mark "." ++ property)) ++
    extend "nested_type_identifier" none (mark "." ++ typeName)

def predefinedTypes : List String :=
  ["any", "number", "boolean", "string", "symbol", "void", "unknown", "never", "object"]

def Ahead.startsGlyph (a : Ahead) (ch : Char) : Bool := a.char == ch

def namedType : Rule :=
  (ahead fun a =>
    let b := a.afterWord
    if b.char == '.' && (b.afterChar).startsWord then nestedTypeName
    else if a.word == "unique" && b.word == "symbol" then
      node "predefined_type" (keyword "unique" ++ keyword "symbol")
    else if predefinedTypes.contains a.word then node "predefined_type" (keyword a.word)
    else typeName) ++
  (ahead fun a =>
    if a.char == '<' && a.last != "predefined_type" then
      maybe (extend "generic_type" none (phrase .typeArguments))
    else done)

/-- The operand of `typeof`, a name with members. -/
def typeQuery : Rule :=
  let imported := leaf "import" ++
    extend "call_expression" (.some .function) (field .arguments (phrase .arguments))
  let start := leaf "this" <|> imported <|> word "identifier"
  let more := many (ahead fun a =>
    if a.isOperator "." || a.isOperator "?." then
      extend "member_expression" (.some .object)
        ((mark "." <|> mark "?.") ++ field .property (privateName <|> word "property_identifier"))
    else if a.char == '[' && !a.afterChar.startsGlyph ']' then
      extend "subscript_expression" none
        (bracketed (phrase .string <|> lexeme .number <|> leaf "undefined" <|> word "identifier"))
    else if a.char == '(' then
      extend "call_expression" (.some .function) (field .arguments (phrase .arguments))
    else fail)
  node "type_query" (keyword "typeof" ++ start ++ more ++
    onlyIf (·.startsGlyph '<') (maybe (extend "instantiation_expression" none (phrase .typeArguments))))

def tupleMember : Rule :=
  let rest := guard (·.isOperator "...") (node "rest_pattern" (mark "..." ++ word "identifier"))
  node "required_parameter" ((rest <|> word "identifier") ++ typeAnnotation) <|>
  node "optional_parameter" (word "identifier" ++ mark "?" ++ typeAnnotation) <|>
  guard (·.isOperator "...") (node "rest_type" (mark "..." ++ phrase .type)) <|>
  (phrase .type ++ maybe (extend "optional_type" none (mark "?")))

def templateType : Rule :=
  node "template_literal_type"
    (glyph '\x60' ++
      many (lexeme .templateText <|>
        node "template_type" (lexeme .substitution ++ phrase .type ++ glyph '\x7d')) ++
      lexeme (.closing '\x60'))

def functionType (l : Language) : Rule :=
  let subject := leaf "this" <|> word "identifier"
  let predicate := node "type_predicate" (subject ++ keyword "is" ++ phrase .type)
  node "function_type" (maybe (phrase .typeParameters) ++ parameters l ++ mark "=>" ++
    ahead fun a =>
      let b := a.afterWord
      if a.word == "asserts" && b.startsWord && !b.broken then
        node "asserts" (keyword "asserts" ++ (predicate <|> subject))
      else if a.startsWord && b.word == "is" && !b.broken then predicate
      else phrase .type)

def constructorType (l : Language) : Rule :=
  node "constructor_type" (maybe (keyword "abstract") ++ keyword "new" ++
    maybe (phrase .typeParameters) ++ parameters l ++ mark "=>" ++ phrase .type)

def literalType (a : Rule) : Rule := node "literal_type" a

/-- A type that no operator takes apart. -/
def primaryType (l : Language) : Rule := ahead fun a =>
  match a.char with
  | '(' =>
    if (a.afterPartner?.map (·.isOperator "=>")).getD false then functionType l
    else node "parenthesized_type" (parenthesized (phrase .type))
  | '<' => functionType l
  | '\x7b' => node "object_type" (phrase .objectType)
  | '[' => node "tuple_type" (bracketed (maybe (trailedList tupleMember)))
  | '\x60' => templateType
  | '"' | '\'' => literalType (phrase .string)
  | '?' => node "flow_maybe_type" (glyph '?' ++ phrase .plainType)
  | '*' => node "existential_type" (mark "*")
  | '-' | '+' => literalType (node "unary_expression" ((mark "-" <|> mark "+") ++ lexeme .number))
  | _ =>
    if Source.isDigit a.char then literalType (lexeme .number)
    else match a.word with
      | "typeof" => typeQuery
      | "keyof" => node "index_type_query" (keyword "keyof" ++ phrase .plainType)
      | "infer" =>
        node "infer_type" (keyword "infer" ++ typeName ++
          onlyIf (fun b => b.word == "extends") (maybe (keyword "extends" ++ phrase .union ++
            reject (glyph '?'))))
      | "readonly" => node "readonly_type" (keyword "readonly" ++ phrase .type)
      | "this" => lexeme (.leafWord "this_type" "this")
      | "true" | "false" | "null" | "undefined" => literalType (leaf a.word)
      | "new" => constructorType l
      | "abstract" => if a.afterWord.word == "new" then constructorType l else namedType
      | "const" => keyword "const"
      | _ => namedType

/-- A type with the brackets of an array or a look-up behind it. -/
def bracketedType (l : Language) : Rule :=
  primaryType l ++ many (ahead fun a =>
    if a.char != '[' || a.ends then fail
    else if a.afterChar.char == ']' then extend "array_type" none (glyph '[' ++ glyph ']')
    else extend "lookup_type" none (bracketed (phrase .type)))

/-- Types between an operator that takes the types left of it together. -/
def joinedType (kind : String) (op : Char) (item : Rule) : Rule :=
  let more := many (extend kind none (glyph op ++ item))
  ahead fun a => if a.char == op then node kind (glyph op ++ item) ++ more else item ++ more

def meetType : Rule := joinedType "intersection_type" '&' (phrase .plainType)
def unionType : Rule := joinedType "union_type" '|' (phrase .intersection)

def anyType : Rule :=
  phrase .union ++ ahead fun a =>
    if a.word == "extends" && !a.ends then
      maybe (extend "conditional_type" none
        (keyword "extends" ++ phrase .union ++ glyph '?' ++ phrase .type ++ mark ":" ++ phrase .type))
    else done

def typeArguments : Rule :=
  node "type_arguments" (glyph '<' ++ inBrackets (trailedList (phrase .type)) ++ glyph '>')

def typeParameters : Rule :=
  let one := node "type_parameter"
    (onlyIf (fun a => a.word == "const" && a.afterWord.startsWord) (keyword "const") ++ typeName ++
      maybe (node "constraint" ((keyword "extends" <|> mark ":") ++ phrase .type)) ++
      maybe (node "default_type" (mark "=" ++ phrase .type)))
  node "type_parameters" (glyph '<' ++ inBrackets (trailedList one) ++ glyph '>')

/-! ## Members of object types -/

/-- The annotation of an index signature, where a sign may stand before the colon. -/
def indexAnnotation : Rule :=
  node "omitting_type_annotation" (mark "-" ++ glyph '?' ++ mark ":" ++ phrase .type) <|>
  node "adding_type_annotation" (mark "+" ++ glyph '?' ++ mark ":" ++ phrase .type) <|>
  node "opting_type_annotation" (glyph '?' ++ mark ":" ++ phrase .type) <|> typeAnnotation

def indexSignature : Rule :=
  let clause := node "mapped_type_clause"
    (typeName ++ keyword "in" ++ phrase .type ++ maybe (keyword "as" ++ phrase .type))
  node "index_signature"
    (maybe ((mark "-" <|> mark "+") ++ keyword "readonly") ++
      onlyIf (·.word == "readonly") (keyword "readonly") ++
      bracketed (word "identifier" ++ mark ":" ++ phrase .type <|> clause) ++ indexAnnotation)

def Ahead.modifiesMember (a : Ahead) : Bool :=
  let b := a.afterWord
  b.startsName || b.char == '*'

def memberModifiers : Rule :=
  let one (text : String) (r : Rule) := onlyIf (fun a => a.word == text && a.modifiesMember) r
  onlyIf (fun a => isAccess a.word && a.modifiesMember) accessModifier ++
  one "static" (keyword "static") ++
  one "override" (node "override_modifier" (keyword "override")) ++
  one "readonly" (keyword "readonly")

def functionModifiers : Rule :=
  onlyIf (fun a => a.word == "async" && a.modifies) (keyword "async") ++
  (ahead fun a =>
    if a.char == '*' then mark "*"
    else if (a.word == "get" || a.word == "set") && a.modifies then keyword a.word
    else done)

def methodSignature : Rule :=
  node "method_signature"
    (memberModifiers ++ functionModifiers ++ propertyName ++ maybe (mark "?") ++ phrase .callSignature)

def propertySignature : Rule :=
  node "property_signature" (memberModifiers ++ propertyName ++ maybe (mark "?") ++ maybe typeAnnotation)

def objectTypeMember (l : Language) : Rule := ahead fun a =>
  if a.char == '(' || a.char == '<' then node "call_signature" (phrase .callSignature)
  else
    guard (fun b => b.word == "new" || b.word == "abstract")
      (node "construct_signature" (maybe (keyword "abstract") ++ keyword "new" ++
        maybe (phrase .typeParameters) ++ parameters l ++ maybe typeAnnotation)) <|>
    guard (fun b => b.word == "export") (phrase .statement) <|>
    indexSignature <|> methodSignature <|> propertySignature

def objectTypeBody (l : Language) : Rule :=
  let stop := mark "," <|> mark ";" <|> lexeme (.statementEnd true)
  mark "\x7b" ++ inBody (maybe (mark "," <|> mark ";") ++ many (objectTypeMember l ++ stop)) ++
    mark "\x7d"

end Fanout.Grammar
