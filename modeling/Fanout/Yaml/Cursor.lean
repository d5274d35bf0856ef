/-!
# Places in a YAML text

* `Yaml.normalized?` : a text in which every line ends with one character, if all its characters are
  allowed;
* `Yaml.Cursor` : what is left of a text, and where that begins.
-/

namespace Fanout.Yaml

def lineSeparator : Char := '\u2028'
def paragraphSeparator : Char := '\u2029'

def isAllowed (c : Char) : Bool :=
  let n := c.toNat
  n == 0x09 || n == 0x0A || n == 0x0D || (0x20 ≤ n && n ≤ 0x7E) || n == 0x85 ||
    (0xA0 ≤ n && n ≤ 0xFFFD && n != 0xFEFF) || 0x10000 ≤ n

/-- Carriage returns, alone or before a line feed, and next-line characters end lines too. -/
def oneBreak : List Char → List Char
  | '\r' :: '\n' :: cs => '\n' :: oneBreak cs
  | c :: cs => (if c == '\r' || c == '\u0085' then '\n' else c) :: oneBreak cs
  | [] => []

def normalized? (text : List Char) : Option (List Char) :=
  let body := if text.head? = some '\uFEFF' then text.drop 1 else text
  if body.all isAllowed then some (oneBreak body) else none

def isBreak (c : Char) : Bool := c == '\n' || c == lineSeparator || c == paragraphSeparator
def isSpace (c : Char) : Bool := c == ' ' || c == '\t'
def isGap (c : Char) : Bool := isSpace c || isBreak c

/-- Letters, digits, hyphens and underscores of ASCII. -/
def isWord (c : Char) : Bool :=
  ('a' ≤ c && c ≤ 'z') || ('A' ≤ c && c ≤ 'Z') || ('0' ≤ c && c ≤ '9') || c == '-' || c == '_'

structure Cursor where
  rest : List Char
  line : Nat
  column : Nat
  index : Nat

namespace Cursor

def start (text : List Char) : Cursor := ⟨text, 0, 0, 0⟩

def peek? (c : Cursor) : Option Char := c.rest.head?
def second? (c : Cursor) : Option Char := c.rest[1]?

def step (c : Cursor) : Cursor :=
  match c.rest with
  | [] => c
  | ch :: rest =>
    if isBreak ch then ⟨rest, c.line + 1, 0, c.index + 1⟩
    else ⟨rest, c.line, c.column + 1, c.index + 1⟩

def steps : Nat → Cursor → Cursor
  | 0, c => c
  | n + 1, c => steps n c.step

/-- The longest run of characters that satisfy `p`, and the place behind it. -/
def span (p : Char → Bool) (c : Cursor) : List Char × Cursor :=
  let run := c.rest.takeWhile p
  (run, c.steps run.length)

def skip (p : Char → Bool) (c : Cursor) : Cursor := (c.span p).2

/-- Whether a blank, a line break or the end stands at a place of what is left. -/
def gapAt (c : Cursor) (i : Nat) : Bool := c.rest[i]?.all isGap

/-- Whether a line begins here with three dashes or three dots that stand alone. -/
def isMarker (c : Cursor) : Bool :=
  c.column == 0 && ((c.rest.take 3 == ['-', '-', '-']) || (c.rest.take 3 == ['.', '.', '.'])) && c.gapAt 3

end Cursor

end Fanout.Yaml
