import Fanout.Yaml.Scalar

/-!
# Tokens of a YAML text

* `Token` : marks, scalars and their properties, with the beginnings and ends of blocks that the
  indentation tells;
* `tokens?` : the tokens of a text.

Whether something is a key shows only at the colon behind it. So a slot is left before everything
that may turn out to be one, and the slots are filled at the end.
-/

namespace Fanout.Yaml

open Fanout.Text (hexNumber?)

inductive Style
  | plain
  | literal
  | other
  deriving Repr, DecidableEq

inductive Token
  | version
  | handle (name value : List Char)
  | documentStart
  | documentEnd
  | blockSequence
  | blockMapping
  | blockEnd
  | openSequence
  | closeSequence
  | openMapping
  | closeMapping
  | comma
  | item
  | key
  | value
  | alias (name : List Char)
  | anchor (name : List Char)
  | tag (handle rest : List Char)
  | scalar (text : List Char) (style : Style)
  deriving Repr, DecidableEq

inductive Slot
  | token (t : Token)
  /-- The place before what may be a key. -/
  | maybeKey (number : Nat)

/-- Something that may turn out to be a key. -/
structure PossibleKey where
  slot : Nat
  /-- Whether it can be nothing else. -/
  required : Bool
  line : Nat
  column : Nat
  index : Nat

/-- A text whose tokens have been read so far. -/
structure Layout where
  next : Cursor
  /-- What has been read, the last first. -/
  out : List Slot := []
  slots : Nat := 0
  /-- The slots that turned out to be keys, and whether a mapping opens there. -/
  keys : List (Nat × Bool) := []
  /-- The possible keys at each level of brackets, the innermost first. -/
  possible : List (Option PossibleKey) := [none]
  keyAllowed : Bool := true
  indent : Int := -1
  indents : List Int := []

namespace Layout

def inFlow (s : Layout) : Bool := 1 < s.possible.length

def emit (t : Token) (s : Layout) : Layout := { s with out := .token t :: s.out }

def goto (c : Cursor) (s : Layout) : Layout := { s with next := c }

def allowKey (b : Bool) (s : Layout) : Layout := { s with keyAllowed := b }

/-- Closes the blocks that are indented more than `column`. -/
def unrollFrom (column : Int) : List Int → Int → List Slot → List Int × Int × List Slot
  | [], indent, out => ([], indent, out)
  | outer :: rest, indent, out =>
    if column < indent then unrollFrom column rest outer (.token .blockEnd :: out)
    else (outer :: rest, indent, out)

def unroll (column : Int) (s : Layout) : Layout :=
  if s.inFlow then s
  else
    let (indents, indent, out) := unrollFrom column s.indents s.indent s.out
    { s with indents, indent, out }

/-- Begins a deeper block, if `column` is deeper. -/
def deepen? (column : Nat) (s : Layout) : Option Layout :=
  if !s.inFlow && s.indent < column then
    some { s with indents := s.indent :: s.indents, indent := column }
  else none

def roll (column : Nat) (t : Token) (s : Layout) : Layout :=
  match s.deepen? column with
  | some s => s.emit t
  | none => s

/-- Nothing read so far at this level is a key any more. Fails if it had to be one. -/
def dropKey? (s : Layout) : Option Layout :=
  match s.possible with
  | some k :: rest => if k.required then none else some { s with possible := none :: rest }
  | _ => some s

/-- Notes that a key may begin here. -/
def saveKey? (s : Layout) : Option Layout :=
  if s.keyAllowed then do
    let required := !s.inFlow && s.indent == s.next.column
    let s ← s.dropKey?
    let k : PossibleKey := ⟨s.slots, required, s.next.line, s.next.column, s.next.index⟩
    some { s with
      out := .maybeKey s.slots :: s.out
      slots := s.slots + 1
      possible := some k :: s.possible.drop 1 }
  else some s

/-- A key ends on the line on which it begins, within 1024 characters. -/
def isStale (c : Cursor) (k : PossibleKey) : Bool := k.line < c.line || k.index + 1024 < c.index

def dropStale? (s : Layout) : Option Layout :=
  let stale := s.possible.filterMap fun k => k.filter (isStale s.next)
  if stale.any (·.required) then none
  else some { s with possible := s.possible.map fun k => k.filter fun k => !isStale s.next k }

/-- Passes blanks, comments and line breaks. -/
def passBlanks : Nat → Layout → Layout
  | 0, s => s
  | fuel + 1, s =>
    let c := s.next.skip fun ch => ch == ' ' || (ch == '\t' && (s.inFlow || !s.keyAllowed))
    let c := if c.peek? == some '#' then c.skip (!isBreak ·) else c
    if c.peek?.any isBreak then
      passBlanks fuel { s with next := c.step, keyAllowed := s.keyAllowed || !s.inFlow }
    else s.goto c

/-! ## Single tokens -/

def isUriMark (c : Char) : Bool := ";/?:@&=+$.%!~*'()".toList.contains c

def tagBytes? : List Char → Option (List UInt8)
  | [] => some []
  | '%' :: a :: b :: rest => do
    let n ← hexNumber? [a, b]
    some (UInt8.ofNat n :: (← tagBytes? rest))
  | '%' :: _ => none
  | c :: rest => do some (UInt8.ofNat c.toNat :: (← tagBytes? rest))

def tagText? (cs : List Char) : Option (List Char) := do
  let bytes ← tagBytes? cs
  (String.fromUTF8? ⟨bytes.toArray⟩).map (·.toList)

def tag? (inFlow : Bool) (c : Cursor) : Option (Token × Cursor) := do
  let (t, c) ←
    if c.second? == some '<' then do
      let (uri, c) := c.step.step.span fun ch => isWord ch || isUriMark ch || ch == ',' || ch == '[' || ch == ']'
      if uri.isEmpty || c.peek? != some '>' then none
      else some (Token.tag [] (← tagText? uri), c.step)
    else do
      let (word, c) := c.step.span isWord
      if c.peek? == some '!' then
        let (rest, c) := c.step.span fun ch => isWord ch || isUriMark ch
        if rest.isEmpty then none
        else some (Token.tag ('!' :: word ++ ['!']) (← tagText? rest), c)
      else
        let (rest, c) := c.span fun ch => isWord ch || isUriMark ch
        let rest ← tagText? (word ++ rest)
        some (if rest.isEmpty then .tag [] ['!'] else .tag ['!'] rest, c)
  if c.gapAt 0 || (inFlow && c.peek? == some ',') then some (t, c) else none

/-- Reads the name behind an asterisk or an ampersand. -/
def name? (c : Cursor) : Option (List Char × Cursor) :=
  let (name, c) := c.step.span isWord
  if name.isEmpty then none
  else if c.gapAt 0 || c.peek?.any fun ch => "?:,]\x7d%@\x60".toList.contains ch then some (name, c)
  else none

def isDigit (c : Char) : Bool := '0' ≤ c && c ≤ '9'

/-- Reads a directive from its percent sign to the end of the line. -/
def directive? (c : Cursor) : Option (Token × Cursor) := do
  let (name, c) := c.step.span isWord
  if !c.gapAt 0 then none
  let (t, c) ←
    if name == "YAML".toList then do
      let c := c.skip isSpace
      let (major, c) := c.span isDigit
      if c.peek? != some '.' then none
      let (minor, c) := c.step.span isDigit
      if major == ['1'] && (minor == ['1'] || minor == ['2']) then some (Token.version, c) else none
    else if name == "TAG".toList then do
      let c := c.skip isSpace
      if c.peek? != some '!' then none
      let (word, c) := c.step.span isWord
      let (handle, c) ←
        if c.peek? == some '!' then some ('!' :: word ++ ['!'], c.step)
        else if word.isEmpty then some (['!'], c) else none
      if !c.peek?.any isSpace then none
      let (uri, c) := (c.skip isSpace).span fun ch => isWord ch || isUriMark ch || ch == ',' || ch == '[' || ch == ']'
      if uri.isEmpty || !c.gapAt 0 then none
      some (Token.handle handle (← tagText? uri), c)
    else none
  let c := c.skip isSpace
  let c := if c.peek? == some '#' then c.skip (!isBreak ·) else c
  match c.peek? with
  | none => some (t, c)
  | some ch => if isBreak ch then some (t, c.step) else none

/-! ## One token further -/

/-- A mark of so many characters between documents. -/
def betweenDocuments? (t : Token) (c : Cursor) (s : Layout) : Option Layout := do
  let s ← (s.unroll (-1)).dropKey?
  some (((s.allowKey false).emit t).goto c)

def openFlow? (t : Token) (s : Layout) : Option Layout := do
  let s ← s.saveKey?
  some ((({ s with possible := none :: s.possible }.allowKey true).emit t).goto s.next.step)

def closeFlow? (t : Token) (s : Layout) : Option Layout := do
  let s ← s.dropKey?
  let possible := if s.inFlow then s.possible.drop 1 else s.possible
  some ((({ s with possible }.allowKey false).emit t).goto s.next.step)

def comma? (s : Layout) : Option Layout := do
  let s ← s.dropKey?
  some (((s.allowKey true).emit .comma).goto s.next.step)

/-- A mark that may begin a block: a dash or a question mark. -/
def blockMark? (block t : Token) (allowed : Bool) (s : Layout) : Option Layout := do
  if !s.inFlow && !s.keyAllowed then none
  let s ← (s.roll s.next.column block).dropKey?
  some (((s.allowKey allowed).emit t).goto s.next.step)

/-- A colon makes a key of what may be one. -/
def colon? (s : Layout) : Option Layout :=
  match s.possible with
  | some k :: rest =>
    let (s, opens) := match s.deepen? k.column with
      | some s => (s, true)
      | none => (s, false)
    let s := { s with keys := (k.slot, opens) :: s.keys, possible := none :: rest }
    some (((s.allowKey false).emit .value).goto s.next.step)
  | _ =>
    if !s.inFlow && !s.keyAllowed then none
    else
      let s := s.roll s.next.column .blockMapping
      some (((s.allowKey (!s.inFlow)).emit .value).goto s.next.step)

/-- Reads something that may be a key. -/
def keyLike? (read : Cursor → Option (Token × Cursor)) (s : Layout) : Option Layout := do
  let s ← s.saveKey?
  let (t, c) ← read s.next
  some (((s.allowKey false).emit t).goto c)

def named? (make : List Char → Token) (c : Cursor) : Option (Token × Cursor) :=
  (name? c).map fun (n, c) => (make n, c)

def quotedToken? (mark : Char) (c : Cursor) : Option (Token × Cursor) :=
  (quoted? mark c).map fun (t, c) => (.scalar t .other, c)

def blockToken? (folded : Bool) (s : Layout) : Option Layout := do
  let s ← s.dropKey?
  let (t, c) ← block? folded s.indent s.next
  some (((s.allowKey true).emit (.scalar t (if folded then .other else .literal))).goto c)

def plainToken? (s : Layout) : Option Layout := do
  let s ← s.saveKey?
  let p ← plain? s.inFlow (s.indent + 1).toNat s.next
  some (((s.allowKey p.broken).emit (.scalar p.text .plain)).goto p.next)

def isIndicator (c : Char) : Bool := "-?:,[]\x7b\x7d#&*!|>'\"%@\x60".toList.contains c

/-- Whether a plain scalar may begin here. -/
def startsPlain (inFlow : Bool) (c : Cursor) (ch : Char) : Bool :=
  !(isGap ch || isIndicator ch) || (ch == '-' && !c.second?.any isSpace) ||
    (!inFlow && (ch == '?' || ch == ':') && !c.gapAt 1)

def token? (ch : Char) (s : Layout) : Option Layout :=
  let c := s.next
  if c.column == 0 && ch == '%' then do
    let (t, c) ← directive? c
    s.betweenDocuments? t c
  else if c.isMarker then s.betweenDocuments? (if ch == '-' then .documentStart else .documentEnd) (c.steps 3)
  else if ch == '[' then s.openFlow? .openSequence
  else if ch == '{' then s.openFlow? .openMapping
  else if ch == ']' then s.closeFlow? .closeSequence
  else if ch == '}' then s.closeFlow? .closeMapping
  else if ch == ',' then s.comma?
  else if ch == '-' && c.gapAt 1 then s.blockMark? .blockSequence .item true
  else if ch == '?' && (s.inFlow || c.gapAt 1) then s.blockMark? .blockMapping .key (!s.inFlow)
  else if ch == ':' && (s.inFlow || c.gapAt 1) then s.colon?
  else if ch == '*' then s.keyLike? (named? .alias)
  else if ch == '&' then s.keyLike? (named? .anchor)
  else if ch == '!' then s.keyLike? (tag? s.inFlow)
  else if ch == '|' && !s.inFlow then s.blockToken? false
  else if ch == '>' && !s.inFlow then s.blockToken? true
  else if ch == '\'' || ch == '"' then s.keyLike? (quotedToken? ch)
  else if startsPlain s.inFlow c ch then s.plainToken?
  else none

def finish? (s : Layout) : Option Layout := (s.unroll (-1)).dropKey?

def run? : Nat → Layout → Option Layout
  | 0, _ => none
  | fuel + 1, s => do
    let s := s.passBlanks (s.next.rest.length + 1)
    let s ← s.dropStale?
    match s.next.peek? with
    | none => s.finish?
    | some ch =>
      let s ← (s.unroll s.next.column).token? ch
      run? fuel s

/-- The tokens read, with the slots filled. -/
def filled (s : Layout) : List Token :=
  s.out.reverse.flatMap fun
    | .token t => [t]
    | .maybeKey n =>
      match s.keys.lookup n with
      | some true => [.blockMapping, .key]
      | some false => [.key]
      | none => []

end Layout

def tokens? (text : List Char) : Option (List Token) := do
  let text ← normalized? text
  let s ← Layout.run? (text.length + 1) { next := .start text }
  some s.filled

end Fanout.Yaml
