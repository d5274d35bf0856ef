/-!
# Pieces of a text, and case in ASCII

* `splitAt` : the pieces of a text between the characters that satisfy a predicate;
* `lowerAscii` : letters of ASCII in lower case, all else as it is;
* `natural?` : the number that some digits stand for.
-/

namespace Fanout.Text

/-- The pieces of a text between the characters that satisfy `p`. -/
def splitAt (p : Char → Bool) : List Char → List (List Char)
  | [] => [[]]
  | c :: cs =>
    if p c then [] :: splitAt p cs
    else match splitAt p cs with
      | [] => [[c]]
      | piece :: rest => (c :: piece) :: rest

def lowerChar (c : Char) : Char := if 'A' ≤ c && c ≤ 'Z' then Char.ofNat (c.toNat + 32) else c

def lowerAscii (cs : List Char) : List Char := cs.map lowerChar

def isAsciiDigit (c : Char) : Bool := '0' ≤ c && c ≤ '9'

/-- The number in a text of digits, with a plus sign before them or without. -/
def natural? (cs : List Char) : Option Nat :=
  let digits := match cs with
    | '+' :: rest => rest
    | all => all
  if digits.isEmpty || !digits.all isAsciiDigit then none
  else some (digits.foldl (fun n c => 10 * n + (c.toNat - '0'.toNat)) 0)

end Fanout.Text
