import Fanout.Json.Basic
import Fanout.Text.Hex

/-!
# Tokens of a JSON text

* `Number.ofText?` : the value of a number's spelling;
* `readString` : the text of a string after its opening quote;
* `Token`, `Token.next?` : the token at the front of a text.

An integer that needs more than 64 bits, and any number with a fraction or an exponent, is a
significand of at most 64 bits times a power of ten, multiplied or divided once; digits beyond the
64 bits only move the exponent.
-/

namespace Fanout.Json

open Fanout.Text (hexValue?)

def isDigit (c : Char) : Bool := '0' ≤ c && c ≤ '9'

def digitValue (c : Char) : Nat := c.toNat - '0'.toNat

/-! ## Numbers -/

/-- Reads digits onto a significand below `2 ^ 64`; from the first digit that does not fit on, digits
are only counted. -/
def readDigits (significand : Nat) : List Char → Nat × Nat
  | [] => (significand, 0)
  | c :: cs =>
    let next := significand * 10 + digitValue c
    if next < UInt64.size then readDigits next cs else (significand, cs.length + 1)

/-- `10 ^ e` as a double. -/
def powerOfTen (e : Nat) : Float := Float.ofScientific 1 false e

/-- Divides by `10 ^ e`, in steps that the doubles can hold. -/
def divideByPower : Nat → Float → Nat → Float
  | 0, x, _ => x
  | steps + 1, x, e =>
    if e ≤ 308 then x / powerOfTen e
    else if x == 0 then x else divideByPower steps (x / powerOfTen 308) (e - 308)

/-- `significand * 10 ^ exponent`, unless it is beyond the doubles. -/
def ofParts? (significand : Nat) (exponent : Int) : Option Float :=
  let x := Float.ofScientific significand false 0
  if exponent < 0 then some (divideByPower 8 x exponent.natAbs)
  else if exponent ≤ 308 then
    let y := x * powerOfTen exponent.toNat
    if y.isInf then none else some y
  else if significand == 0 then some x else none

/-- The exponent's value in a spelling such as `-12`. -/
def readExponent? (cs : List Char) : Option Int :=
  let (negative, digits) := match cs with
    | '-' :: r => (true, r)
    | '+' :: r => (false, r)
    | r => (false, r)
  if digits.isEmpty || !digits.all isDigit then none
  else
    let n := digits.foldl (fun n c => n * 10 + digitValue c) 0
    some (if negative then -n else n)

/-- The value after the integer digits, which left `exponent` of them over. -/
def readFraction? (significand : Nat) (exponent : Int) (cs : List Char) : Option Float :=
  let (digits, tail) := match cs with
    | '.' :: r => (some (r.takeWhile isDigit), r.dropWhile isDigit)
    | r => (none, r)
  let (significand, exponent) := match digits with
    | none => (significand, exponent)
    | some ds =>
      let (s, dropped) := readDigits significand ds
      (s, exponent - ((ds.length : Int) - dropped))
  if digits = some [] then none
  else match tail with
    | [] => ofParts? significand exponent
    | c :: r =>
      if c == 'e' || c == 'E' then
        (readExponent? r).bind fun e => ofParts? significand (exponent + e)
      else none

/-- A number without its sign: an integer part without needless zeros, then fraction and exponent.
The inner option is empty for a number beyond the doubles. -/
def readMagnitude? (cs : List Char) : Option (Option Number) :=
  let digits := cs.takeWhile isDigit
  let tail := cs.dropWhile isDigit
  if digits.isEmpty || (digits.head? == some '0' && digits.length > 1) then none
  else
    let (significand, dropped) := readDigits 0 digits
    if tail.isEmpty && dropped == 0 then some (some (.nat significand))
    else if wellFormed tail then some ((readFraction? significand dropped tail).map .float) else none
where
  /-- Whether a text is a fraction and an exponent, each possibly absent. -/
  wellFormed (cs : List Char) : Bool :=
    let afterFraction := match cs with
      | '.' :: r => if (r.takeWhile isDigit).isEmpty then none else some (r.dropWhile isDigit)
      | r => some r
    match afterFraction with
    | none => false
    | some [] => true
    | some (c :: r) => (c == 'e' || c == 'E') && (readExponent? r).isSome

/-- The value of a number's spelling: nothing for what is no number. -/
def Number.ofText? (cs : List Char) : Option (Option Number) :=
  match cs with
  | '-' :: r => (readMagnitude? r).map fun v => v.map negate
  | r => readMagnitude? r
where
  /-- Zero and integers below `-2 ^ 63` have no negative integer and become doubles. -/
  negate : Number → Number
    | .nat n => if 0 < n && n ≤ UInt64.size / 2 then .neg n else .float (-Float.ofScientific n false 0)
    | .neg n => .nat n
    | .float x => .float (-x)

/-! ## Strings -/

/-- The value of four hexadecimal digits. -/
def hexQuad? (a b c d : Char) : Option Nat := do
  return ((← hexValue? a) * 16 + (← hexValue? b)) * 256 + (← hexValue? c) * 16 + (← hexValue? d)

def pairChar (high low : Nat) : Char :=
  Char.ofNat ((high - 0xD800) * 1024 + (low - 0xDC00) + 0x10000)

/-- Reads a string after its opening quote: its characters, reversed onto `done`, and what follows
the closing quote. Characters are absent when half of a surrogate pair stood alone. -/
def readString (done : Option (List Char)) : List Char → Option (Option (List Char) × List Char)
  | [] => none
  | '"' :: r => some (done, r)
  | '\\' :: '"' :: r => readString (done.map ('"' :: ·)) r
  | '\\' :: '\\' :: r => readString (done.map ('\\' :: ·)) r
  | '\\' :: '/' :: r => readString (done.map ('/' :: ·)) r
  | '\\' :: 'b' :: r => readString (done.map ('\x08' :: ·)) r
  | '\\' :: 'f' :: r => readString (done.map ('\x0c' :: ·)) r
  | '\\' :: 'n' :: r => readString (done.map ('\n' :: ·)) r
  | '\\' :: 'r' :: r => readString (done.map ('\r' :: ·)) r
  | '\\' :: 't' :: r => readString (done.map ('\t' :: ·)) r
  | '\\' :: 'u' :: a :: b :: c :: d :: r =>
    match hexQuad? a b c d with
    | none => none
    | some n =>
      if 0xDC00 ≤ n && n ≤ 0xDFFF then readString none r
      else if n < 0xD800 || n > 0xDBFF then readString (done.map (Char.ofNat n :: ·)) r
      else match r with
        | '\\' :: 'u' :: e :: f :: g :: h :: r' =>
          match hexQuad? e f g h with
          | none => none
          | some m =>
            if 0xDC00 ≤ m && m ≤ 0xDFFF then readString (done.map (pairChar n m :: ·)) r'
            else readString none r'
        | r' => readString none r'
  | '\\' :: _ => none
  | c :: r => if c < ' ' then none else readString (done.map (c :: ·)) r

/-! ## Tokens -/

inductive Token where
  | openArray
  | closeArray
  | openObject
  | closeObject
  | comma
  | colon
  | scalar (v : Json)

def isBlank (c : Char) : Bool := c == ' ' || c == '\t' || c == '\n' || c == '\r'

/-- The characters that numbers and the three names are made of. -/
def isWordChar (c : Char) : Bool :=
  isDigit c || ('a' ≤ c && c ≤ 'z') || ('A' ≤ c && c ≤ 'Z') || c == '-' || c == '+' || c == '.'

def wordValue? (cs : List Char) : Option Json :=
  if cs = ['n', 'u', 'l', 'l'] then some .null
  else if cs = ['t', 'r', 'u', 'e'] then some (.bool true)
  else if cs = ['f', 'a', 'l', 's', 'e'] then some (.bool false)
  else (Number.ofText? cs).map fun v => v.elim .unreadable .number

/-- The token at the front of a text that starts with `c`, and what follows it. -/
def Token.next? (c : Char) (cs : List Char) : Option (Token × List Char) :=
  match c with
  | '[' => some (.openArray, cs)
  | ']' => some (.closeArray, cs)
  | '{' => some (.openObject, cs)
  | '}' => some (.closeObject, cs)
  | ',' => some (.comma, cs)
  | ':' => some (.colon, cs)
  | '"' => (readString (some []) cs).map fun (s, r) =>
      (.scalar (s.elim .unreadable fun s => .string (String.ofList s.reverse)), r)
  | c =>
    if isWordChar c then
      (wordValue? (c :: cs.takeWhile isWordChar)).map fun v => (.scalar v, cs.dropWhile isWordChar)
    else none

end Fanout.Json
