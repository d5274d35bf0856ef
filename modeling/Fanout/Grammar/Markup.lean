import Fanout.Grammar.Pattern

/-!
# Markup elements

Rules for elements, their attributes and their children. Whether an element has children is seen
from the end of its first tag, before its attributes are read.
-/

namespace Fanout.Grammar
open Rule

/-- Whether the tag at an index closes itself. Attributes in braces are jumped over. -/
def tagCloses (s : Source) : Nat → Nat → Nat → Bool
  | 0, _, _ => false
  | fuel + 1, index, depth =>
    match s.chars[index]? with
    | none => false
    | some '\x7b' =>
      match s.partners[index]? with
      | some (partner + 1) => tagCloses s fuel (partner + 2) depth
      | _ => false
    | some '<' => tagCloses s fuel (index + 1) (depth + 1)
    | some '>' =>
      if depth ≤ 1 then s.chars[index - 1]? == some '/' else tagCloses s fuel (index + 1) (depth - 1)
    | some c =>
      if c == '"' || c == '\'' then
        let stop := s.skipWhile (· != c) ⟨index + 1, ⟨0, 0⟩⟩
        tagCloses s fuel (stop.index + 1) depth
      else tagCloses s fuel (index + 1) depth

def elementWord : Rule := lexeme .dashedName <|> word "identifier"

/-- The name of an element: a word, a name with a colon, or a name with members. -/
def elementName : Rule :=
  let property := word "property_identifier"
  let member := guard (·.isOperator ".")
    (extend "member_expression" (.some .object) (mark "." ++ field .property property))
  (node "jsx_namespace_name" (elementWord ++ mark ":" ++ elementWord)) <|>
    (elementWord ++ many member)

def markupExpression : Rule :=
  node "jsx_expression" (braced (ahead fun a =>
    if a.isOperator "..." then node "spread_element" (mark "..." ++ phrase .expression)
    else maybe (phrase .expressions)))

def attributeString : Rule :=
  let between (quote : Char) := glyph quote ++
    many (lexeme (.attributeText quote) <|> lexeme .characterReference) ++ lexeme (.closing quote)
  node "string" (ahead fun a => between (if a.char == '\'' then '\'' else '"'))

def attributeValue : Rule := ahead fun a =>
  match a.char with
  | '\x7b' => markupExpression
  | '<' => phrase .element
  | _ => attributeString

def markupAttribute : Rule := ahead fun a =>
  if a.char == '\x7b' then markupExpression
  else
    let dashed := { Lexeme.dashedName with kind := "property_identifier" }
    let name :=
      node "jsx_namespace_name" (elementWord ++ mark ":" ++ elementWord) <|> lexeme dashed <|>
      word "property_identifier"
    node "jsx_attribute" (name ++ maybe (mark "=" ++ attributeValue))

def tagStart (l : Language) : Rule :=
  glyph '<' ++ maybe (elementName ++
    (if l.typed then onlyIf (·.char == '<') (phrase .typeArguments) else done) ++ many markupAttribute)

def elementChild : Rule :=
  lexeme .markupText <|> lexeme .characterReference <|> ahead fun a =>
    match a.char with
    | '\x7b' => markupExpression
    | '<' => if a.char 1 == '/' then fail else phrase .element
    | _ => fail

def element (l : Language) : Rule := ahead fun a =>
  if a.char != '<' then fail
  else if tagCloses a.source (a.source.chars.size - a.next.index) a.next.index 0 then
    node "jsx_self_closing_element" (tagStart l ++ lexeme (.spelled "/>"))
  else
    node "jsx_element"
      (node "jsx_opening_element" (tagStart l ++ glyph '>') ++ many elementChild ++
        node "jsx_closing_element" (lexeme (.spelled "</") ++ maybe elementName ++ glyph '>'))

end Fanout.Grammar
