import Fanout.Source.Alphabet
import Fanout.Source.Point

/-!
# Walking over a source text

* `Source` : the characters of a text, and for every opening bracket where its partner stands;
* `Cursor` : an index into the text together with the row and column there;
* `Source.skipWhile` : the cursor after a run of characters;
* `Source.cursorAt` : the cursor at a point.

Partners are found in one pass that passes over strings, templates, comments and regular
expressions. They only serve to look ahead.
-/

namespace Fanout.Source

structure Cursor where
  index : Nat
  point : Point
  deriving Repr, Inhabited

def Cursor.start : Cursor := ⟨0, ⟨0, 0⟩⟩

def Cursor.pass (c : Cursor) (ch : Char) : Cursor :=
  ⟨c.index + 1,
    if ch == '\n' then ⟨c.point.row + 1, 0⟩ else ⟨c.point.row, c.point.column + ch.utf8Size⟩⟩

/-! ## Partners of brackets -/

inductive Region where
  | code
  | quoted (mark : Char)
  | template
  | lineComment
  | blockComment
  | pattern (inClass : Bool)
  deriving BEq

/-- An opening bracket without its partner yet; a template's substitution returns to the template. -/
structure Opened where
  index : Nat
  inTemplate : Bool

structure Pairing where
  region : Region := .code
  opened : List Opened := []
  /-- The last character of code that was no gap. -/
  previous : Char := ';'
  /-- The letters of the word right before, reversed. -/
  word : List Char := []
  /-- Whether the character is the second of a pair that belongs together. -/
  skip : Bool := false
  partners : Array Nat

/-- The words after which a slash starts a regular expression. -/
def operandWords : List String :=
  ["return", "typeof", "case", "in", "of", "delete", "void", "throw", "new", "else", "do", "await",
    "yield", "instanceof"]

def Pairing.startsPattern (p : Pairing) : Bool :=
  if p.word.isEmpty then "(,=:[!&|?;+-*%~^<>\x7b\x7d".toList.contains p.previous
  else operandWords.contains (String.ofList p.word.reverse)

def Pairing.code (p : Pairing) (i : Nat) (c next : Char) : Pairing :=
  if c == '/' && next == '/' then { p with region := .lineComment, skip := true }
  else if c == '/' && next == '*' then { p with region := .blockComment, skip := true }
  else if c == '/' && p.startsPattern then { p with region := .pattern false }
  else if c == '\'' || c == '"' then
    { p with region := .quoted c, previous := c, word := [] }
  else if c == '\x60' then { p with region := .template, previous := c, word := [] }
  else if c == '(' || c == '[' || c == '\x7b' then
    { p with opened := ⟨i, false⟩ :: p.opened, previous := c, word := [] }
  else if c == ')' || c == ']' || c == '\x7d' then
    match p.opened with
    | [] => { p with previous := c, word := [] }
    | o :: rest =>
      { p with
        opened := rest
        region := if o.inTemplate then .template else .code
        partners := p.partners.setIfInBounds o.index i
        previous := c
        word := [] }
  else if isGap c then p
  else if isWordPart c then
    { p with previous := c, word := if isWordPart p.previous then c :: p.word else [c] }
  else { p with previous := c, word := [] }

def Pairing.step (p : Pairing) (i : Nat) (c next : Char) : Pairing :=
  if p.skip then { p with skip := false }
  else match p.region with
    | .code => p.code i c next
    | .quoted mark =>
      if c == '\\' then { p with skip := true }
      else if c == mark || c == '\n' then { p with region := .code } else p
    | .template =>
      if c == '\\' then { p with skip := true }
      else if c == '\x60' then { p with region := .code }
      else if c == '$' && next == '\x7b' then
        { p with region := .code, skip := true, opened := ⟨i + 1, true⟩ :: p.opened,
                 previous := '\x7b', word := [] }
      else p
    | .lineComment => if isLineEnd c then { p with region := .code } else p
    | .blockComment => if c == '*' && next == '/' then { p with region := .code, skip := true } else p
    | .pattern inClass =>
      if c == '\\' then { p with skip := true }
      else if c == '\n' then { p with region := .code }
      else if c == '[' then { p with region := .pattern true }
      else if c == ']' then { p with region := .pattern false }
      else if c == '/' && !inClass then { p with region := .code, previous := ')', word := [] }
      else p

/-- Reads the text from index `i` on, where `fuel` characters are left. -/
def Pairing.run (chars : Array Char) : Nat → Nat → Pairing → Pairing
  | 0, _, p => p
  | fuel + 1, i, p =>
    run chars fuel (i + 1) (p.step i (chars[i]?.getD ' ') (chars[i + 1]?.getD ' '))

end Fanout.Source

namespace Fanout

structure Source where
  chars : Array Char
  /-- The index of the closing partner of a bracket, zero where there is none. -/
  partners : Array Nat
  /-- Where a statement must not end unless a semicolon stands there. -/
  firm : List Nat := []

namespace Source

def ofArray (chars : Array Char) (firm : List Nat := []) : Source :=
  let none := Array.replicate chars.size 0
  { chars, partners := (Pairing.run chars chars.size 0 { partners := none }).partners, firm }

def ofString (text : String) : Source := ofArray text.toList.toArray

def char? (s : Source) (c : Cursor) : Option Char := s.chars[c.index]?

/-- The character some places after the cursor, or a null character behind the end. -/
def charAt (s : Source) (c : Cursor) (offset : Nat) : Char := s.chars[c.index + offset]?.getD '\x00'

/-- The cursor after the longest run of characters that satisfy `p`, where `fuel` are left. -/
def skipWhileWith (s : Source) (p : Char → Bool) : Nat → Cursor → Cursor
  | 0, c => c
  | fuel + 1, c =>
    match s.char? c with
    | some ch => if p ch then skipWhileWith s p fuel (c.pass ch) else c
    | none => c

def skipWhile (s : Source) (p : Char → Bool) (c : Cursor) : Cursor :=
  skipWhileWith s p (s.chars.size - c.index) c

/-- The cursor some characters further on. -/
def advance (s : Source) : Nat → Cursor → Cursor
  | 0, c => c
  | n + 1, c =>
    match s.char? c with
    | some ch => advance s n (c.pass ch)
    | none => c

def startsWith (s : Source) (c : Cursor) (text : List Char) : Bool :=
  match text with
  | [] => true
  | ch :: rest => s.char? c == some ch && s.startsWith (c.pass ch) rest

/-- The first cursor at a point from a cursor on, where `fuel` characters are left. -/
def seekPoint (s : Source) (p : Point) : Nat → Cursor → Cursor
  | 0, c => c
  | fuel + 1, c =>
    if c.point == p then c
    else match s.char? c with
      | some ch => seekPoint s p fuel (c.pass ch)
      | none => c

def cursorAt (s : Source) (p : Point) : Cursor := s.seekPoint p s.chars.size .start

/-- The characters with blanks for those between two indices. -/
def blanked (s : Source) (start stop : Nat) : Array Char :=
  s.chars.mapIdx fun i ch => if start ≤ i && i < stop then ' ' else ch

/-- The text between two cursors. -/
def slice (s : Source) (a b : Cursor) : String :=
  String.ofList (s.chars.extract a.index b.index).toList

end Source
end Fanout
