import Fanout.Bytes.Utf8
import Fanout.Decimal.Text
import Fanout.Json.Token

/-!
# Places in a JSON text

* `Cursor` : the bytes that are still to be read, and the line and column of the first of them;
* `Fault` : what is wrong with a text, and where;
* `Cursor.readText`, `Cursor.readNumber`, `Cursor.readName` : the scalars at a cursor;
* `Cursor.skipValue` : passes over a value of any kind, however deeply nested.

Columns count bytes. A fault that a byte ahead shows lies behind that byte.
-/

namespace Fanout.Json

inductive Cause
  | endInList
  | endInObject
  | endInText
  | endInValue
  | noColon
  | noListSeparator
  | noObjectSeparator
  | noName
  | noValue
  | badEscape
  | badNumber
  | outOfRange
  | control
  | keyIsNoText
  | loneSurrogate
  | unfinishedPair
  | trailingComma
  | trailingText
  | wrongKind (found wanted : String)
  | missing (key : String)
  | repeated (key : String)
  | wrongLength (length : Nat) (wanted : String)
  deriving Repr, DecidableEq

def Cause.message : Cause → String
  | .endInList => "EOF while parsing a list"
  | .endInObject => "EOF while parsing an object"
  | .endInText => "EOF while parsing a string"
  | .endInValue => "EOF while parsing a value"
  | .noColon => "expected \x60:\x60"
  | .noListSeparator => "expected \x60,\x60 or \x60]\x60"
  | .noObjectSeparator => "expected \x60,\x60 or \x60\x7d\x60"
  | .noName => "expected ident"
  | .noValue => "expected value"
  | .badEscape => "invalid escape"
  | .badNumber => "invalid number"
  | .outOfRange => "number out of range"
  | .control => "control character (\\u0000-\\u001F) found while parsing a string"
  | .keyIsNoText => "key must be a string"
  | .loneSurrogate => "lone leading surrogate in hex escape"
  | .unfinishedPair => "unexpected end of hex escape"
  | .trailingComma => "trailing comma"
  | .trailingText => "trailing characters"
  | .wrongKind found wanted => "invalid type: " ++ found ++ ", expected " ++ wanted
  | .missing key => "missing field \x60" ++ key ++ "\x60"
  | .repeated key => "duplicate field \x60" ++ key ++ "\x60"
  | .wrongLength length wanted => s!"invalid length {length}, expected {wanted}"

structure Fault where
  cause : Cause
  line : Nat
  column : Nat
  deriving Repr, DecidableEq

def Fault.message (f : Fault) : String :=
  s!"{f.cause.message} at line {f.line} column {f.column}"

structure Cursor where
  rest : List UInt8
  line : Nat := 1
  column : Nat := 0

def byte (c : Char) : UInt8 := UInt8.ofNat c.toNat

def byteChar (b : UInt8) : Char := Char.ofNat b.toNat

namespace Cursor

def start (text : String) : Cursor := { rest := Utf8.encode text.toList }

def peek? (c : Cursor) : Option Char := c.rest.head?.map byteChar

def advance (c : Cursor) : Cursor :=
  match c.rest with
  | [] => c
  | b :: rest =>
    if b == byte '\n' then ⟨rest, c.line + 1, 0⟩ else ⟨rest, c.line, c.column + 1⟩

def advanceBy : Nat → Cursor → Cursor
  | 0, c => c
  | n + 1, c => advanceBy n c.advance

def toEnd (c : Cursor) : Cursor := advanceBy c.rest.length c

/-- The bytes at the front that satisfy `p`, and the cursor behind them. -/
def span (p : Char → Bool) (c : Cursor) : List UInt8 × Cursor :=
  let front := c.rest.takeWhile fun b => p (byteChar b)
  (front, advanceBy front.length c)

def skipBlank (c : Cursor) : Cursor := (c.span isBlank).2

/-- A fault right before the next byte. -/
def fault {α : Type} (c : Cursor) (cause : Cause) : Except Fault α := .error ⟨cause, c.line, c.column⟩

/-- A fault that the next byte shows. -/
def faultAhead {α : Type} (c : Cursor) (cause : Cause) : Except Fault α := c.advance.fault cause

/-! ## Texts -/

/-- The value of four hexadecimal digits. -/
def readQuad (c : Cursor) : Except Fault (Nat × Cursor) :=
  match c.rest with
  | d₁ :: d₂ :: d₃ :: d₄ :: _ =>
    let behind := advanceBy 4 c
    match hexQuad? (byteChar d₁) (byteChar d₂) (byteChar d₃) (byteChar d₄) with
    | some n => .ok (n, behind)
    | none => behind.fault .badEscape
  | _ => c.toEnd.fault .endInText

/-- Passes a byte that the second half of a pair of surrogates must start with. -/
def passInPair (expected : Char) (c : Cursor) : Except Fault Cursor :=
  match c.peek? with
  | none => c.fault .endInText
  | some b => if b == expected then .ok c.advance else c.advance.fault .unfinishedPair

def isHighHalf (n : Nat) : Bool := 0xD800 ≤ n && n ≤ 0xDBFF
def isLowHalf (n : Nat) : Bool := 0xDC00 ≤ n && n ≤ 0xDFFF

/-- The character of an escape with digits, behind its letter. -/
def readUnicode (c : Cursor) : Except Fault (Char × Cursor) := do
  let (n, c) ← c.readQuad
  if isLowHalf n then c.fault .loneSurrogate
  else if isHighHalf n then do
    let (low, c) ← (← (← c.passInPair '\\').passInPair 'u').readQuad
    if isLowHalf low then .ok (pairChar n low, c) else c.fault .loneSurrogate
  else .ok (Char.ofNat n, c)

/-- The character that a letter behind a backslash stands for. -/
def simpleEscape? : Char → Option Char
  | '"' => some '"'
  | '\\' => some '\\'
  | '/' => some '/'
  | 'b' => some '\x08'
  | 'f' => some '\x0c'
  | 'n' => some '\n'
  | 'r' => some '\r'
  | 't' => some '\t'
  | _ => none

def readEscape (c : Cursor) : Except Fault (Char × Cursor) :=
  match c.peek? with
  | none => c.fault .endInText
  | some 'u' => c.advance.readUnicode
  | some letter =>
    match simpleEscape? letter with
    | some e => .ok (e, c.advance)
    | none => c.advance.fault .badEscape

/-- Reads a text behind its opening quote onto the reversed bytes `done`. -/
def readBytes : Nat → List UInt8 → Cursor → Except Fault (List UInt8 × Cursor)
  | 0, _, c => c.fault .endInText
  | fuel + 1, done, c =>
    match c.rest with
    | [] => c.fault .endInText
    | b :: _ =>
      if b == byte '"' then .ok (done.reverse, c.advance)
      else if b == byte '\\' then do
        let (e, c) ← c.advance.readEscape
        readBytes fuel ((Utf8.encodeChar e).reverse ++ done) c
      else if b < 0x20 then c.advance.fault .control
      else readBytes fuel (b :: done) c.advance

/-- The text of bytes that are known to be one. -/
def ofBytes (bytes : List UInt8) : String :=
  match Utf8.decode bytes with
  | .ok cs => String.ofList cs
  | .error _ => ""

def readText (c : Cursor) : Except Fault (String × Cursor) :=
  (readBytes (c.rest.length + 1) [] c).map fun (bytes, c) => (ofBytes bytes, c)

/-- Passes an escape behind its backslash, whatever its digits stand for. -/
def skipEscape (c : Cursor) : Except Fault Cursor :=
  match c.peek? with
  | none => c.fault .endInText
  | some 'u' => c.advance.readQuad.map (·.2)
  | some letter =>
    if (simpleEscape? letter).isSome then .ok c.advance else c.advance.fault .badEscape

/-- Passes a text behind its opening quote. -/
def skipBytes : Nat → Cursor → Except Fault Cursor
  | 0, c => c.fault .endInText
  | fuel + 1, c =>
    match c.rest with
    | [] => c.fault .endInText
    | b :: _ =>
      if b == byte '"' then .ok c.advance
      else if b == byte '\\' then do skipBytes fuel (← c.advance.skipEscape)
      else if b < 0x20 then c.fault .control
      else skipBytes fuel c.advance

def skipText (c : Cursor) : Except Fault Cursor := skipBytes (c.rest.length + 1) c

/-! ## Names and numbers -/

def readName : List Char → Cursor → Except Fault Cursor
  | [], c => .ok c
  | expected :: rest, c =>
    match c.peek? with
    | none => c.fault .endInValue
    | some b => if b == expected then readName rest c.advance else c.advance.fault .noName

/-- Passes the next byte, which must be a digit; `atEnd` is the cause where there is no byte. -/
def passDigit (atEnd : Cause) (c : Cursor) : Except Fault Cursor :=
  match c.peek? with
  | none => c.fault atEnd
  | some b => if isDigit b then .ok c.advance else c.advance.fault .badNumber

/-- Passes the digits of an integer without a needless zero. -/
def passInteger (atEnd : Cause) (c : Cursor) : Except Fault Cursor := do
  let behind ← c.passDigit atEnd
  if c.peek? == some '0' then
    if behind.peek?.any isDigit then behind.faultAhead .badNumber else .ok behind
  else .ok (behind.span isDigit).2

def passFraction (atEnd : Cause) (c : Cursor) : Except Fault Cursor :=
  if c.peek? == some '.' then
    let (digits, behind) := c.advance.span isDigit
    if digits.isEmpty then
      behind.faultAhead (if behind.peek?.isSome then .badNumber else atEnd)
    else .ok behind
  else .ok c

def passExponent (atEnd : Cause) (c : Cursor) : Except Fault Cursor :=
  if c.peek? == some 'e' || c.peek? == some 'E' then do
    let signed := c.advance
    let digits :=
      if signed.peek? == some '+' || signed.peek? == some '-' then signed.advance else signed
    .ok ((← digits.passDigit atEnd).span isDigit).2
  else .ok c

def passNumber (atEnd : Cause) (c : Cursor) : Except Fault Cursor := do
  let unsigned := if c.peek? == some '-' then c.advance else c
  passExponent atEnd (← passFraction atEnd (← unsigned.passInteger atEnd))

/-- Reads a number, which must lie within the doubles. -/
def readNumber (c : Cursor) : Except Fault (Number × Cursor) := do
  let behind ← c.passNumber .endInValue
  let spelling := (c.rest.take (c.rest.length - behind.rest.length)).map byteChar
  match Number.ofText? spelling with
  | some (some n) => .ok (n, behind)
  | _ => behind.fault .outOfRange

/-! ## Values of any kind -/

/-- A list or an object whose end has not been met. -/
inductive Enclosure
  | list
  | object

def Enclosure.close : Enclosure → Char
  | .list => ']'
  | .object => '}'

def Enclosure.atEnd : Enclosure → Cause
  | .list => .endInList
  | .object => .endInObject

def Enclosure.noSeparator : Enclosure → Cause
  | .list => .noListSeparator
  | .object => .noObjectSeparator

/-- Passes the colon behind a key. -/
def passColon (c : Cursor) : Except Fault Cursor :=
  let c := c.skipBlank
  match c.peek? with
  | some ':' => .ok c.advance
  | some _ => c.faultAhead .noColon
  | none => c.faultAhead .endInObject

/-- Passes what stands before a value in an enclosure: in an object, the key. -/
def skipKey (e : Enclosure) (c : Cursor) : Except Fault Cursor :=
  match e with
  | .list => .ok c
  | .object =>
    let c := c.skipBlank
    match c.peek? with
    | some '"' => do (← c.advance.skipText).passColon
    | some _ => c.faultAhead .keyIsNoText
    | none => c.faultAhead .endInObject

inductive Stage
  | value
  /-- Behind the opening of the innermost enclosure. -/
  | opened
  /-- Behind a value. -/
  | passed

def skipScalar (b : Char) (c : Cursor) : Except Fault Cursor :=
  match b with
  | 'n' => readName ['u', 'l', 'l'] c.advance
  | 't' => readName ['r', 'u', 'e'] c.advance
  | 'f' => readName ['a', 'l', 's', 'e'] c.advance
  | '"' => c.advance.skipText
  | _ => if isDigit b || b == '-' then c.passNumber .badNumber else c.faultAhead .noValue

/-- Passes the rest of a value inside `open` enclosures, the innermost first. -/
def skipFrom : Nat → Stage → List Enclosure → Cursor → Except Fault Cursor
  | 0, _, _, c => c.fault .endInValue
  | fuel + 1, .value, within, c =>
    let c := c.skipBlank
    match c.peek? with
    | none => c.faultAhead .endInValue
    | some '[' => skipFrom fuel .opened (.list :: within) c.advance
    | some '{' => skipFrom fuel .opened (.object :: within) c.advance
    | some b => do skipFrom fuel .passed within (← c.skipScalar b)
  | fuel + 1, .opened, within, c =>
    match within with
    | [] => .ok c
    | e :: outer =>
      let c := c.skipBlank
      match c.peek? with
      | none => c.faultAhead e.atEnd
      | some b =>
        if b == e.close then skipFrom fuel .passed outer c.advance
        else do skipFrom fuel .value within (← c.skipKey e)
  | fuel + 1, .passed, within, c =>
    match within with
    | [] => .ok c
    | e :: outer =>
      let c := c.skipBlank
      match c.peek? with
      | none => c.faultAhead e.atEnd
      | some ',' => do skipFrom fuel .value within (← c.advance.skipKey e)
      | some b =>
        if b == e.close then skipFrom fuel .passed outer c.advance
        else c.faultAhead e.noSeparator

def skipValue (c : Cursor) : Except Fault Cursor :=
  skipFrom (3 * c.rest.length + 3) .value [] c

end Cursor

end Fanout.Json
