import Fanout.Decimal.Shortest

/-!
# Texts of doubles

* `Float.plainText` : the shortest digits that read back, always positional;
* `Float.fixedText` : one digit after the point, rounded from the exact value, a tie to the even
  digit;
* `Float.jsonText` : the shortest digits that read back, positional for exponents from `-5` to `16`,
  otherwise with an exponent; an integer keeps `.0`;
* `roundAway` : the nearest integer, a half away from zero.
-/

namespace Fanout

def digitsOf (n : Nat) : List Char := Nat.toDigits 10 n

/-- The quotient rounded to the nearest integer, a tie to the even one. -/
def roundDivEven (num den : Nat) : Nat :=
  let q := num / den
  let r := num % den
  if 2 * r < den then q else if 2 * r == den then (if q % 2 == 0 then q else q + 1) else q + 1

namespace Double

def signText (d : Double) : List Char := if d.negative then ['-'] else []

/-- One digit after the point. -/
def fixedText (d : Double) : List Char :=
  let (num, den) := d.fraction
  let tenths := roundDivEven (10 * num) den
  d.signText ++ digitsOf (tenths / 10) ++ '.' :: digitsOf (tenths % 10)

/-- Positional digits, without a point where nothing follows it. -/
def plainText (d : Double) : List Char :=
  let v := d.shortest
  let ds := digitsOf v.digits
  d.signText ++
    if 0 ≤ v.exponent then
      (if v.digits == 0 then ['0'] else ds ++ List.replicate v.exponent.toNat '0')
    else
      let places := (-v.exponent).toNat
      if places < ds.length then ds.take (ds.length - places) ++ '.' :: ds.drop (ds.length - places)
      else '0' :: '.' :: (List.replicate (places - ds.length) '0' ++ ds)

/-- The digits with an exponent, positional where the point falls near them. -/
def jsonText (d : Double) : List Char :=
  let v := d.shortest
  let ds := digitsOf v.digits
  let point := (ds.length : Int) + v.exponent
  d.signText ++
    if v.digits == 0 then ['0', '.', '0']
    else if 0 ≤ v.exponent && point ≤ 16 then
      ds ++ List.replicate v.exponent.toNat '0' ++ ['.', '0']
    else if 0 < point && point ≤ 16 then ds.take point.toNat ++ '.' :: ds.drop point.toNat
    else if -5 < point && point ≤ 0 then
      '0' :: '.' :: (List.replicate (-point).toNat '0' ++ ds)
    else
      let e := point - 1
      let power := (if e < 0 then ['-'] else []) ++ digitsOf e.natAbs
      match ds with
      | [c] => c :: 'e' :: power
      | c :: rest => c :: '.' :: (rest ++ 'e' :: power)
      | [] => []

end Double

/-- The text of a double that has no digits. -/
def specialText (x : Float) : List Char :=
  if x.isNaN then "NaN".toList else if x < 0 then "-inf".toList else "inf".toList

/-- Picks the text of a finite double, or the text of one that is not finite. -/
def floatText (text : Double → List Char) (x : Float) : String :=
  String.ofList ((Double.ofFloat? x).elim (specialText x) text)

def fixedText (x : Float) : String := floatText Double.fixedText x

def plainText (x : Float) : String := floatText Double.plainText x

def jsonText (x : Float) : String := floatText Double.jsonText x

/-- The nearest integer, a half away from zero. -/
def roundAway (x : Float) : Float := x.round

end Fanout
