import Fanout.Grammar.Rule

/-!
# Literals and names

Rules for strings, templates, regular expressions and the names of properties.
-/

namespace Fanout.Grammar
open Rule

def stringBetween (quote : Char) : Rule :=
  glyph quote ++ many (lexeme (.stringText quote) <|> lexeme .escape) ++ lexeme (.closing quote)

def string : Rule :=
  node "string" (ahead fun a => stringBetween (if a.char == '\'' then '\'' else '"'))

def templateSubstitution : Rule :=
  node "template_substitution"
    (lexeme .substitution ++ inBrackets (phrase .expressions) ++ glyph '\x7d')

def template : Rule :=
  node "template_string"
    (glyph '\x60' ++
      many (lexeme .templateText <|> lexeme .escape <|> templateSubstitution) ++
      lexeme (.closing '\x60'))

def regex : Rule :=
  node "regex"
    (glyph '/' ++ lexeme .regexPattern ++ lexeme (.closing '/') ++ maybe (lexeme .regexFlags))

def privateName : Rule := lexeme .privateName

/-- The name of a property where one is declared. -/
def propertyName : Rule := ahead fun a =>
  match a.char with
  | '"' | '\'' => phrase .string
  | '[' => node "computed_property_name" (bracketed (phrase .expression))
  | '#' => privateName
  | _ => word "property_identifier" <|> lexeme .number

def Ahead.startsName (a : Ahead) : Bool :=
  a.startsWord || Source.isDigit a.char || a.char == '"' || a.char == '\'' || a.char == '[' || a.char == '#'

/-- Whether the word that comes next says something of the name behind it, on the same line. -/
def Ahead.modifies (a : Ahead) : Bool :=
  let b := a.afterWord
  !b.broken && (b.startsName || b.char == '*' || b.char == '\x7b')

def modifier (text : String) : Rule :=
  onlyIf (fun a => a.word == text && a.modifies) (keyword text)

end Fanout.Grammar
