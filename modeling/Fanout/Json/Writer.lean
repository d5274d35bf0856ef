import Fanout.Json.Basic
import Fanout.Decimal.Text

/-!
# Writing JSON texts

* `Json.compact` : a value on one line without blanks;
* `Json.pretty` : a value with two blanks per level and one element or member a line.

A quote, a backslash and the control characters are escaped, everything else stands as it is.
-/

namespace Fanout.Json

def hexDigit (n : Nat) : Char := (Nat.toDigits 16 n).headD '0'

def escape (c : Char) : List Char :=
  match c with
  | '"' => ['\\', '"']
  | '\\' => ['\\', '\\']
  | '\x08' => ['\\', 'b']
  | '\x0c' => ['\\', 'f']
  | '\n' => ['\\', 'n']
  | '\r' => ['\\', 'r']
  | '\t' => ['\\', 't']
  | c =>
    if c < ' ' then ['\\', 'u', '0', '0', hexDigit (c.toNat / 16), hexDigit (c.toNat % 16)] else [c]

def quote (s : String) : List Char := '"' :: (s.toList.flatMap escape ++ ['"'])

def Number.text : Number → List Char
  | .nat n => digitsOf n
  | .neg n => '-' :: digitsOf n
  | .float x => (jsonText x).toList

mutual

/-- A value without blanks. -/
def compactChars : Json → List Char
  | .null | .unreadable => ['n', 'u', 'l', 'l']
  | .bool true => ['t', 'r', 'u', 'e']
  | .bool false => ['f', 'a', 'l', 's', 'e']
  | .number n => n.text
  | .string s => quote s
  | .array items => '[' :: (compactItems items ++ [']'])
  | .object members => '{' :: (compactMembers members ++ ['}'])

def compactItems : List Json → List Char
  | [] => []
  | [v] => compactChars v
  | v :: w :: rest => compactChars v ++ ',' :: compactItems (w :: rest)

def compactMembers : List (String × Json) → List Char
  | [] => []
  | [(k, v)] => quote k ++ ':' :: compactChars v
  | (k, v) :: m :: rest => quote k ++ ':' :: (compactChars v ++ ',' :: compactMembers (m :: rest))

end

def compact (v : Json) : String := String.ofList (compactChars v)

def lineBreak (level : Nat) : List Char := '\n' :: List.replicate (2 * level) ' '

mutual

def prettyChars (level : Nat) : Json → List Char
  | .array [] => ['[', ']']
  | .array (v :: rest) => '[' :: (prettyItems (level + 1) (v :: rest) ++ lineBreak level ++ [']'])
  | .object [] => ['{', '}']
  | .object (m :: rest) =>
    '{' :: (prettyMembers (level + 1) (m :: rest) ++ lineBreak level ++ ['}'])
  | v => compactChars v

def prettyItems (level : Nat) : List Json → List Char
  | [] => []
  | [v] => lineBreak level ++ prettyChars level v
  | v :: w :: rest => lineBreak level ++ prettyChars level v ++ ',' :: prettyItems level (w :: rest)

def prettyMembers (level : Nat) : List (String × Json) → List Char
  | [] => []
  | [(k, v)] => lineBreak level ++ quote k ++ ':' :: ' ' :: prettyChars level v
  | (k, v) :: m :: rest =>
    lineBreak level ++ quote k ++
      ':' :: ' ' :: (prettyChars level v ++ ',' :: prettyMembers level (m :: rest))

end

def pretty (v : Json) : String := String.ofList (prettyChars 0 v)

end Fanout.Json
