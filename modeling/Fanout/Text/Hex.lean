/-!
# Hexadecimal digits

* `hexValue?`, `hexNumber?` : the value of a digit, and of several;
* `scalarValue?` : the character with a number.
-/

namespace Fanout.Text

def hexValue? (c : Char) : Option Nat :=
  if '0' ≤ c && c ≤ '9' then some (c.toNat - '0'.toNat)
  else if 'a' ≤ c && c ≤ 'f' then some (c.toNat - 'a'.toNat + 10)
  else if 'A' ≤ c && c ≤ 'F' then some (c.toNat - 'A'.toNat + 10)
  else none

def hexNumber? (digits : List Char) : Option Nat :=
  digits.foldlM (fun n d => (hexValue? d).map (16 * n + ·)) 0

/-- The character of a number, unless it is a surrogate or too large. -/
def scalarValue? (n : Nat) : Option Char :=
  if h : n.isValidChar then some (Char.ofNatAux n h) else none

end Fanout.Text
