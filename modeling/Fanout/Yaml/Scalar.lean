import Fanout.Text.Hex
import Fanout.Yaml.Cursor

/-!
# Scalars in YAML

* `Gap` : the blanks and line breaks between two pieces of a scalar, and what they amount to;
* `quoted?` : a scalar between quotation marks;
* `plain?` : a scalar without them;
* `block?` : a scalar of whole lines.
-/

namespace Fanout.Yaml

open Fanout.Text (hexNumber? scalarValue?)

structure Gap where
  /-- The blanks before the first line break. -/
  spaces : List Char := []
  /-- Whether a line ended. -/
  broken : Bool := false
  /-- The first line break, nothing if it was escaped. -/
  first : List Char := []
  /-- The line breaks behind the first, the last one first. -/
  more : List Char := []

/-- A single line break amounts to a space, several to one less. -/
def Gap.text (g : Gap) : List Char :=
  if g.broken then
    if g.first = ['\n'] then (if g.more.isEmpty then [' '] else g.more.reverse)
    else g.first ++ g.more.reverse
  else g.spaces.reverse

/-- Reads a gap to its end. Tabs may not stand where a line has to be indented. -/
def Gap.read? (indent : Nat) : Nat → Gap → Cursor → Option (Gap × Cursor)
  | 0, g, c => some (g, c)
  | fuel + 1, g, c =>
    match c.peek? with
    | none => some (g, c)
    | some ch =>
      if isSpace ch then
        if g.broken && c.column < indent && ch == '\t' then none
        else Gap.read? indent fuel (if g.broken then g else { g with spaces := ch :: g.spaces }) c.step
      else if isBreak ch then
        let g := if g.broken then { g with more := ch :: g.more }
          else { g with spaces := [], broken := true, first := [ch] }
        Gap.read? indent fuel g c.step
      else some (g, c)

def Gap.next? (indent : Nat) (g : Gap) (c : Cursor) : Option (Gap × Cursor) :=
  Gap.read? indent (c.rest.length + 1) g c

/-! ## Quoted scalars -/

/-- The characters that a letter behind a backslash stands for. -/
def shortEscape? : Char → Option Char
  | '0' => some '\x00'
  | 'a' => some '\x07'
  | 'b' => some '\x08'
  | 't' | '\t' => some '\t'
  | 'n' => some '\n'
  | 'v' => some '\x0B'
  | 'f' => some '\x0C'
  | 'r' => some '\r'
  | 'e' => some '\x1B'
  | ' ' => some ' '
  | '"' => some '"'
  | '/' => some '/'
  | '\\' => some '\\'
  | 'N' => some '\u0085'
  | '_' => some '\u00A0'
  | 'L' => some lineSeparator
  | 'P' => some paragraphSeparator
  | _ => none

/-- How many hexadecimal digits follow a letter behind a backslash. -/
def longEscape? : Char → Option Nat
  | 'x' => some 2
  | 'u' => some 4
  | 'U' => some 8
  | _ => none

/-- Reads the character behind a backslash. -/
def escape? (c : Cursor) : Option (Char × Cursor) := do
  let ch ← c.peek?
  match longEscape? ch with
  | some n =>
    let digits := (c.rest.drop 1).take n
    if digits.length == n then
      let value ← scalarValue? (← hexNumber? digits)
      some (value, c.steps (n + 1))
    else none
  | none => some (← shortEscape? ch, c.step)

/-- Reads a quoted scalar behind its first mark. -/
def quotedFrom? (mark : Char) : Nat → List Char → Cursor → Option (List Char × Cursor)
  | 0, _, _ => none
  | fuel + 1, out, c =>
    if c.isMarker then none
    else match c.peek? with
      | none => none
      | some ch =>
        if isGap ch then do
          let (g, c) ← Gap.next? 0 {} c
          quotedFrom? mark fuel (g.text.reverse ++ out) c
        else if mark == '\'' && ch == '\'' && c.second? == some '\'' then
          quotedFrom? mark fuel ('\'' :: out) c.step.step
        else if ch == mark then some (out.reverse, c.step)
        else if mark == '"' && ch == '\\' then
          if c.second?.any isBreak then do
            let (g, c) ← Gap.next? 0 { broken := true } c.step.step
            quotedFrom? mark fuel (g.text.reverse ++ out) c
          else do
            let (e, c) ← escape? c.step
            quotedFrom? mark fuel (e :: out) c
        else quotedFrom? mark fuel (ch :: out) c.step

/-- Reads a quoted scalar from its first mark. -/
def quoted? (mark : Char) (c : Cursor) : Option (List Char × Cursor) :=
  quotedFrom? mark (c.rest.length + 1) [] c.step

/-! ## Plain scalars -/

def isFlowMark (c : Char) : Bool := c == ',' || c == '[' || c == ']' || c == '{' || c == '}'

def endsPlain (inFlow : Bool) (c : Cursor) (ch : Char) : Bool :=
  (ch == ':' && c.gapAt 1) || (inFlow && isFlowMark ch)

/-- A colon may not stand right before a mark inside brackets. -/
def badColon (inFlow : Bool) (c : Cursor) (ch : Char) : Bool :=
  inFlow && ch == ':' && c.second?.any fun d => isFlowMark d || d == '?'

structure Plain where
  text : List Char
  /-- Whether lines ended behind the text. -/
  broken : Bool
  next : Cursor

/-- Reads a plain scalar whose lines are indented by at least `indent`. `gap` is what has been
passed since the last character of the text. -/
def plainFrom? (inFlow : Bool) (indent : Nat) :
    Nat → List Char → Option Gap → Cursor → Option Plain
  | 0, _, _, _ => none
  | fuel + 1, out, gap, c =>
    let done : Option Plain := some ⟨out.reverse, gap.any (·.broken), c⟩
    let fresh := gap.isSome || out.isEmpty
    if c.isMarker then done
    else if gap.isSome && !inFlow && c.column < indent then done
    else match c.peek? with
      | none => done
      | some ch =>
        if fresh && ch == '#' then done
        else if isGap ch then do
          let (g, c) ← Gap.next? indent {} c
          plainFrom? inFlow indent fuel out (some g) c
        else if badColon inFlow c ch then none
        else if endsPlain inFlow c ch then done
        else plainFrom? inFlow indent fuel (ch :: ((gap.elim [] Gap.text).reverse ++ out)) none c.step

def plain? (inFlow : Bool) (indent : Nat) (c : Cursor) : Option Plain :=
  plainFrom? inFlow indent (2 * c.rest.length + 2) [] none c

/-! ## Block scalars -/

/-- What becomes of the line breaks at the end. -/
inductive Chomping
  | strip
  | clip
  | keep
  deriving DecidableEq

structure BlockHeader where
  chomping : Chomping
  indent : Option Nat
  next : Cursor

def chomping? : Char → Option Chomping
  | '+' => some .keep
  | '-' => some .strip
  | _ => none

def indentDigit? (c : Char) : Option Nat :=
  if '1' ≤ c && c ≤ '9' then some (c.toNat - 48) else none

/-- Reads what stands behind the indicator of a block scalar up to the end of the line. -/
def blockHeader? (c : Cursor) : Option BlockHeader :=
  let header (k : Option Chomping) (n : Option Nat) (c : Cursor) : Option BlockHeader :=
    let c := c.skip isSpace
    let c := if c.peek? == some '#' then c.skip (!isBreak ·) else c
    match c.peek? with
    | none => some ⟨k.getD .clip, n, c⟩
    | some ch => if isBreak ch then some ⟨k.getD .clip, n, c.step⟩ else none
  let first := c.peek?
  match first.bind chomping? with
  | some k =>
    match c.second?.bind indentDigit? with
    | some n => header (some k) (some n) c.step.step
    | none => header (some k) none c.step
  | none =>
    match first.bind indentDigit? with
    | some n =>
      match c.second?.bind chomping? with
      | some k => header (some k) (some n) c.step.step
      | none => header none (some n) c.step
    | none => header none none c

/-- The empty lines before a line of a block scalar. -/
structure BlockBreaks where
  /-- The line breaks, the last one first. -/
  breaks : List Char
  /-- The largest indentation met. -/
  widest : Nat
  next : Cursor

/-- Reads empty lines. `indent` is the indentation of the scalar once it is known. -/
def blockBreaks? (indent : Option Nat) : Nat → BlockBreaks → Option BlockBreaks
  | 0, b => some b
  | fuel + 1, b =>
    let within (c : Cursor) : Bool := indent.all (c.column < ·)
    let width := match indent with
      | none => (b.next.rest.takeWhile (· == ' ')).length
      | some n => min (n - b.next.column) (b.next.rest.takeWhile (· == ' ')).length
    let c := b.next.steps width
    let widest := max b.widest c.column
    match c.peek? with
    | none => some ⟨b.breaks, widest, c⟩
    | some ch =>
      if within c && ch == '\t' then none
      else if isBreak ch then blockBreaks? indent fuel ⟨ch :: b.breaks, widest, c.step⟩
      else some ⟨b.breaks, widest, c⟩

/-- Reads the lines of a block scalar. `lead` is the break that ended the last line, `breaks` are
those of the empty lines behind it, `blank` tells whether that line began with a blank. -/
def blockLines? (folded : Bool) (indent : Nat) :
    Nat → List Char → List Char → List Char → Bool → Cursor →
      Option (List Char × List Char × List Char × Cursor)
  | 0, _, _, _, _, _ => none
  | fuel + 1, out, lead, breaks, blank, c =>
    if c.column == indent && !c.rest.isEmpty then do
      let starts := c.peek?.any isSpace
      let out :=
        if folded && lead == ['\n'] && !blank && !starts then
          (if breaks.isEmpty then ' ' :: out else out)
        else lead ++ out
      let (line, c) := c.span (!isBreak ·)
      let out := line.reverse ++ breaks ++ out
      let (lead, c) := match c.peek? with
        | some ch => ([ch], c.step)
        | none => ([], c)
      let b ← blockBreaks? (some indent) (c.rest.length + 1) ⟨[], 0, c⟩
      blockLines? folded indent fuel out lead b.breaks starts b.next
    else some (out, lead, breaks, c)

/-- Reads a block scalar from its indicator. `parent` is the indentation of what it stands in, one
less than the least it may have. -/
def block? (folded : Bool) (parent : Int) (c : Cursor) : Option (List Char × Cursor) := do
  let h ← blockHeader? c.step
  let indent := h.indent.map fun n => (max parent 0).toNat + n
  let b ← blockBreaks? indent (h.next.rest.length + 1) ⟨[], 0, h.next⟩
  let indent := indent.getD (max b.widest (max 1 (parent + 1).toNat))
  let (out, lead, breaks, c) ←
    blockLines? folded indent (c.rest.length + 1) [] [] b.breaks false b.next
  let out := if h.chomping = .strip then out else lead ++ out
  let out := if h.chomping = .keep then breaks ++ out else out
  some (out.reverse, c)

end Fanout.Yaml
