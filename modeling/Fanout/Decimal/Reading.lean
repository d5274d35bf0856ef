import Fanout.Decimal.Shortest

/-!
# Reading doubles

`floatOfText?` reads a decimal number: a sign, digits with a point among or around them, an
exponent, or one of the words for infinity and for no number. The value is rounded once.
-/

namespace Fanout

namespace Reading

def isDigit (c : Char) : Bool := '0' ≤ c && c ≤ '9'

def numeral (ds : List Char) : Nat := ds.foldl (fun n c => 10 * n + (c.toNat - '0'.toNat)) 0

/-- The double nearest to `digits * 10 ^ exponent`. Exponents that leave the doubles at once are not
computed with. -/
def nearest (digits : Nat) (exponent : Int) : Float :=
  let size := (Nat.toDigits 10 digits).length
  if digits == 0 then 0
  else if exponent + size > 400 then 1.0 / 0.0
  else if exponent + size < -400 then 0
  else if 0 ≤ exponent then Float.ofScientific digits false exponent.toNat
  else Float.ofScientific digits true (-exponent).toNat

/-- The exponent in a text that is empty or an exponent. -/
def exponent? : List Char → Option Int
  | [] => some 0
  | mark :: cs =>
    if mark != 'e' && mark != 'E' then none
    else
      let (negative, ds) := match cs with
        | '-' :: r => (true, r)
        | '+' :: r => (false, r)
        | r => (false, r)
      if ds.isEmpty || !ds.all isDigit then none
      else some (if negative then -(numeral ds : Int) else numeral ds)

def magnitude? (cs : List Char) : Option Float :=
  let whole := cs.takeWhile isDigit
  let tail := cs.dropWhile isDigit
  let (places, rest) := match tail with
    | '.' :: r => (r.takeWhile isDigit, r.dropWhile isDigit)
    | r => ([], r)
  if whole.isEmpty && places.isEmpty then none
  else (exponent? rest).map fun e => nearest (numeral (whole ++ places)) (e - places.length)

def lower (c : Char) : Char := if 'A' ≤ c && c ≤ 'Z' then Char.ofNat (c.toNat + 32) else c

def unsigned? (cs : List Char) : Option Float :=
  let word := String.ofList (cs.map lower)
  if word == "inf" || word == "infinity" then some (1.0 / 0.0)
  else if word == "nan" then some (0.0 / 0.0)
  else magnitude? cs

end Reading

def floatOfText? : List Char → Option Float
  | '-' :: cs => (Reading.unsigned? cs).map (- ·)
  | '+' :: cs => Reading.unsigned? cs
  | cs => Reading.unsigned? cs

end Fanout
