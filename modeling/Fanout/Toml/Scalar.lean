import Fanout.Decimal.Reading
import Fanout.Text.Hex
import Fanout.Toml.Value

/-!
# Numbers, dates and strings in TOML

* `atom?` : what a run of letters, digits and signs stands for;
* `string?` : a string in any of the four kinds of quotation marks.
-/

namespace Fanout.Toml

open Fanout.Text (hexNumber? scalarValue?)

def isDigit (c : Char) : Bool := '0' ≤ c && c ≤ '9'
def isHex (c : Char) : Bool := isDigit c || ('a' ≤ c && c ≤ 'f') || ('A' ≤ c && c ≤ 'F')

/-! ## Numbers -/

/-- Digits between which single underscores may stand. -/
def digits? (ok : Char → Bool) (cs : List Char) : Option (List Char) :=
  let rec go (afterDigit : Bool) : List Char → Option (List Char)
    | [] => if afterDigit then some [] else none
    | c :: rest =>
      if c == '_' then (if afterDigit then go false rest else none)
      else if ok c then (go true rest).map (c :: ·) else none
  go false cs

/-- No zero stands before other digits. -/
def isPlainNumber (cs : List Char) : Bool := cs.length ≤ 1 || cs.head? != some '0'

def numberOf (base : Nat) (digits : List Char) : Nat :=
  digits.foldl (fun n d => base * n + ((hexNumber? [d]).getD 0)) 0

/-- A number without its sign, and whether it is negative. -/
def unsigned : List Char → Bool × List Char
  | '-' :: cs => (true, cs)
  | '+' :: cs => (false, cs)
  | cs => (false, cs)

def radix? : Char → Option (Nat × (Char → Bool))
  | 'x' => some (16, isHex)
  | 'o' => some (8, fun c => '0' ≤ c && c ≤ '7')
  | 'b' => some (2, fun c => c == '0' || c == '1')
  | _ => none

def integer? (cs : List Char) : Option Int :=
  match cs with
  | '0' :: x :: rest =>
    match radix? x with
    | some (base, ok) => (digits? ok rest).map fun ds => (numberOf base ds : Int)
    | none => none
  | _ =>
    let (negative, body) := unsigned cs
    match digits? isDigit body with
    | some ds =>
      if isPlainNumber ds then some (if negative then -(numberOf 10 ds : Int) else numberOf 10 ds)
      else none
    | none => none

/-- Whether a whole number has at most 128 bits. -/
def fits (n : Int) : Bool := -(Nat.pow 2 127 : Int) ≤ n && n < Nat.pow 2 128

def exponent? : List Char → Option (List Char)
  | [] => some []
  | e :: rest =>
    if e == 'e' || e == 'E' then
      let (negative, body) := unsigned rest
      (digits? isDigit body).map fun ds => 'e' :: (if negative then '-' :: ds else ds)
    else none

/-- A number with a fraction or an exponent, without underscores. -/
def float? (cs : List Char) : Option (List Char) :=
  let (negative, body) := unsigned cs
  let sign := if negative then ['-'] else []
  if body == "inf".toList || body == "nan".toList then some (sign ++ body)
  else
    let isInner (c : Char) : Bool := isDigit c || c == '_'
    match digits? isDigit (body.takeWhile isInner) with
    | none => none
    | some whole =>
      if !isPlainNumber whole then none
      else match body.dropWhile isInner with
        | [] => none
        | '.' :: rest => do
          let fraction ← digits? isDigit (rest.takeWhile isInner)
          let e ← exponent? (rest.dropWhile isInner)
          some (sign ++ whole ++ '.' :: fraction ++ e)
        | rest => (exponent? rest).map (sign ++ whole ++ ·)

/-- Whether a number is not too large for a double. -/
def isFiniteText (cs : List Char) : Bool :=
  cs.contains 'i' || (floatOfText? cs).any fun x => !x.isInf

/-! ## Dates and times -/

/-- A number of so many digits between bounds, and the rest. -/
def field? (count low high : Nat) (cs : List Char) : Option (Nat × List Char) :=
  let ds := cs.take count
  let n := numberOf 10 ds
  if ds.length == count && ds.all isDigit && low ≤ n && n ≤ high then some (n, cs.drop count) else none

def expect? (c : Char) : List Char → Option (List Char)
  | d :: rest => if d == c then some rest else none
  | [] => none

def daysIn (year month : Nat) : Nat :=
  if month == 2 then (if year % 4 == 0 && (year % 100 != 0 || year % 400 == 0) then 29 else 28)
  else if [4, 6, 9, 11].contains month then 30 else 31

def date? (cs : List Char) : Option (List Char) := do
  let (year, cs) ← field? 4 0 9999 cs
  let (month, cs) ← field? 2 1 12 (← expect? '-' cs)
  let (_, cs) ← field? 2 1 (daysIn year month) (← expect? '-' cs)
  some cs

/-- Hours and minutes, and seconds if they are given. -/
def time? (cs : List Char) : Option (List Char) := do
  let (_, cs) ← field? 2 0 23 cs
  let (_, cs) ← field? 2 0 59 (← expect? ':' cs)
  match cs with
  | ':' :: cs =>
    let (_, cs) ← field? 2 0 60 cs
    match cs with
    | '.' :: cs => if cs.head?.any isDigit then some (cs.dropWhile isDigit) else none
    | cs => some cs
  | cs => some cs

def offset? (cs : List Char) : Option (List Char) :=
  match cs with
  | 'Z' :: cs | 'z' :: cs => some cs
  | '+' :: cs | '-' :: cs => do
    let (_, cs) ← field? 2 0 23 cs
    let (_, cs) ← field? 2 0 59 (← expect? ':' cs)
    some cs
  | cs => some cs

def isMoment (cs : List Char) : Bool :=
  match date? cs with
  | some [] => true
  | some (t :: rest) =>
    (t == 'T' || t == 't' || t == ' ') && ((time? rest).bind offset?) == some []
  | none => time? cs == some []

def atomOf? (cs : List Char) : Option Value :=
  if cs == "true".toList then some (.boolean true)
  else if cs == "false".toList then some (.boolean false)
  else match integer? cs with
    | some n => if fits n then some (.integer n) else none
    | none =>
      match float? cs with
      | some t => if isFiniteText t then some (.float (String.ofList t)) else none
      | none => if isMoment cs then some (.moment (String.ofList cs)) else none

def isAtomChar (c : Char) : Bool :=
  isDigit c || ('a' ≤ c && c ≤ 'z') || ('A' ≤ c && c ≤ 'Z') || "+-_.:".toList.contains c

/-- Reads a number, a date or a word. A space may stand between a date and a time. -/
def atom? (cs : List Char) : Option (Value × List Char) :=
  let word := cs.takeWhile isAtomChar
  let rest := cs.dropWhile isAtomChar
  let (word, rest) := match date? word, rest with
    | some [], ' ' :: d :: more =>
      if isDigit d then
        (word ++ ' ' :: (d :: more).takeWhile isAtomChar, (d :: more).dropWhile isAtomChar)
      else (word, rest)
    | _, _ => (word, rest)
  (atomOf? word).map fun v => (v, rest)

/-! ## Strings -/

/-- Characters of strings and comments: no control characters but the tab. -/
def isTextChar (c : Char) : Bool := c == '\t' || (' ' ≤ c && c != '\x7F')

def shortEscape? : Char → Option Char
  | 'b' => some '\x08'
  | 't' => some '\t'
  | 'n' => some '\n'
  | 'f' => some '\x0C'
  | 'r' => some '\r'
  | 'e' => some '\x1B'
  | '"' => some '"'
  | '\\' => some '\\'
  | _ => none

/-- How many hexadecimal digits follow a letter behind a backslash. -/
def longEscape? : Char → Option Nat
  | 'x' => some 2
  | 'u' => some 4
  | 'U' => some 8
  | _ => none

/-- Reads the character behind a backslash. -/
def escape? (cs : List Char) : Option (Char × List Char) :=
  match cs with
  | [] => none
  | c :: rest =>
    match longEscape? c with
    | some n => do
      let digits := rest.take n
      if digits.length != n then none
      some (← scalarValue? (← hexNumber? digits), rest.drop n)
    | none => (shortEscape? c).map (·, rest)

/-- The text behind a line break, if one stands here. -/
def newline? : List Char → Option (List Char)
  | '\n' :: cs => some cs
  | '\r' :: '\n' :: cs => some cs
  | _ => none

def isSpace (c : Char) : Bool := c == ' ' || c == '\t'

/-- What follows a backslash at the end of a line: the next character that is no blank. -/
def continued? (cs : List Char) : Option (List Char) :=
  (newline? (cs.dropWhile isSpace)).map passBreaks
where
  passBreaks : List Char → List Char
    | '\r' :: '\n' :: cs => passBreaks cs
    | c :: cs => if isSpace c || c == '\n' then passBreaks cs else c :: cs
    | [] => []

/-- Reads a string of one line behind its first mark. -/
def lineString? (mark : Char) : Nat → List Char → List Char → Option (String × List Char)
  | 0, _, _ => none
  | fuel + 1, out, cs =>
    match cs with
    | [] => none
    | c :: rest =>
      if c == mark then some (String.ofList out.reverse, rest)
      else if mark == '"' && c == '\\' then do
        let (e, rest) ← escape? rest
        lineString? mark fuel (e :: out) rest
      else if isTextChar c then lineString? mark fuel (c :: out) rest
      else none

/-- Reads a string of many lines behind its first three marks. Up to two marks may stand right
before the three last. -/
def blockString? (mark : Char) : Nat → List Char → List Char → Option (String × List Char)
  | 0, _, _ => none
  | fuel + 1, out, cs =>
    match cs with
    | [] => none
    | c :: rest =>
      if c == mark then
        let run := (cs.takeWhile (· == mark)).length
        if run < 3 then blockString? mark fuel (c :: out) rest
        else
          let more := min (run - 3) 2
          some (String.ofList (out.reverse ++ List.replicate more mark), cs.drop (more + 3))
      else if mark == '"' && c == '\\' then
        match continued? rest with
        | some rest => blockString? mark fuel out rest
        | none => do
          let (e, rest) ← escape? rest
          blockString? mark fuel (e :: out) rest
      else match newline? cs with
        | some rest => blockString? mark fuel ('\n' :: out) rest
        | none => if isTextChar c then blockString? mark fuel (c :: out) rest else none

/-- Reads a string from its first mark. -/
def string? (mark : Char) (cs : List Char) : Option (String × List Char) :=
  match cs with
  | a :: b :: c :: rest =>
    if a == mark && b == mark && c == mark then
      blockString? mark (rest.length + 1) [] ((newline? rest).getD rest)
    else lineString? mark cs.length [] (b :: c :: rest)
  | _ => lineString? mark cs.length [] (cs.drop 1)

end Fanout.Toml
