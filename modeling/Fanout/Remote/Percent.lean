import Fanout.Bytes.Utf8
import Fanout.Text.Hex

/-!
# Percent encoding

* `Percent.encode` : a text in which only the characters of a set stand for themselves, and every
  byte of the others is written as `%` and two digits;
* `Percent.decode` : the bytes of such a text;
* `Percent.formEncode` : the same for the values of a form, where `+` stands for a space.
-/

namespace Fanout.Percent

def hexDigit (n : Nat) : Char := Char.ofNat (if n < 10 then 48 + n else 55 + n)

def encodeByte (b : UInt8) : List Char := ['%', hexDigit (b.toNat / 16), hexDigit (b.toNat % 16)]

/-- The written form of a character, where `keeps` tells which characters stand for themselves. -/
def encodeChar (keeps : Char → Bool) (c : Char) : List Char :=
  if keeps c then [c] else (Utf8.encodeChar c).flatMap encodeByte

def encode (keeps : Char → Bool) (cs : List Char) : List Char := cs.flatMap (encodeChar keeps)

/-- The bytes of a text. A `%` without two digits behind it stands for itself. -/
def decode : List Char → List UInt8
  | [] => []
  | '%' :: a :: b :: rest =>
    match Text.hexValue? a, Text.hexValue? b with
    | some x, some y => UInt8.ofNat (16 * x + y) :: decode rest
    | _, _ => Utf8.encodeChar '%' ++ decode (a :: b :: rest)
  | c :: rest => Utf8.encodeChar c ++ decode rest

/-- The characters of ASCII that show. -/
def isGraphic (c : Char) : Bool := ' ' < c && c < '\x7f'

/-- The graphic characters other than some. -/
def allBut (others : List Char) (c : Char) : Bool := isGraphic c && !others.contains c

def keptInFragment : Char → Bool := allBut ['"', '<', '>', '\x60']

def keptInPath : Char → Bool := allBut ['"', '<', '>', '\x60', '#', '?', '{', '}']

/-- In a single segment of a path, neither slashes nor `%` stand for themselves. -/
def keptInSegment : Char → Bool :=
  allBut ['"', '<', '>', '\x60', '#', '?', '{', '}', '/', '%', '\\']

def keptInQuery : Char → Bool := allBut ['"', '#', '<', '>', '\x27']

def isLetterOrDigit (c : Char) : Bool :=
  ('0' ≤ c && c ≤ '9') || ('A' ≤ c && c ≤ 'Z') || ('a' ≤ c && c ≤ 'z')

def keptInForm (c : Char) : Bool := isLetterOrDigit c || ['*', '-', '.', '_'].contains c

def formEncode (cs : List Char) : List Char :=
  cs.flatMap fun c => if c == ' ' then ['+'] else encodeChar keptInForm c

end Fanout.Percent
