/-!
# Bytes as text

* `Utf8.decode` : the characters of bytes in UTF-8, or where and how they fail to be;
* `Utf8.encode` : the bytes of a text.

A byte that cannot go on with a character ends the faulty sequence before it; a character that the
bytes break off has no length.
-/

namespace Fanout.Utf8

/-- The first place where bytes are no text. -/
structure Fault where
  /-- The number of bytes before it. -/
  index : Nat
  /-- The bytes of the faulty sequence, unless the bytes end within it. -/
  length : Option Nat
  deriving Repr, DecidableEq

def Fault.message (f : Fault) : String :=
  match f.length with
  | some n => s!"invalid utf-8 sequence of {n} bytes from index {f.index}"
  | none => s!"incomplete utf-8 byte sequence from index {f.index}"

/-- The bytes that may follow a first byte, and how many follow in all. -/
def second? (b : UInt8) : Option (UInt8 × UInt8 × Nat) :=
  if 0xC2 ≤ b && b ≤ 0xDF then some (0x80, 0xBF, 1)
  else if b == 0xE0 then some (0xA0, 0xBF, 2)
  else if b == 0xED then some (0x80, 0x9F, 2)
  else if 0xE1 ≤ b && b ≤ 0xEF then some (0x80, 0xBF, 2)
  else if b == 0xF0 then some (0x90, 0xBF, 3)
  else if 0xF1 ≤ b && b ≤ 0xF3 then some (0x80, 0xBF, 3)
  else if b == 0xF4 then some (0x80, 0x8F, 3)
  else none

/-- The bits of a first byte that belong to the character. -/
def leadBits (b : UInt8) (count : Nat) : Nat :=
  if count == 1 then b.toNat % 32 else if count == 2 then b.toNat % 16 else b.toNat % 8

/-- Reads the bytes of a character behind its first: its number and the rest, or how many bytes
belong to the faulty sequence. `seen` bytes have been read, the next one lies between bounds. -/
def readTail (seen : Nat) (low high : UInt8) (n : Nat) :
    Nat → List UInt8 → Except (Option Nat) (Nat × List UInt8)
  | 0, bs => .ok (n, bs)
  | _ + 1, [] => .error none
  | count + 1, b :: bs =>
    if low ≤ b && b ≤ high then
      readTail (seen + 1) 0x80 0xBF (n * 64 + b.toNat % 64) count bs
    else .error (some seen)

/-- The first character of some bytes, and the rest. -/
def next (b : UInt8) (bs : List UInt8) : Except (Option Nat) (Char × List UInt8) :=
  if b < 0x80 then .ok (Char.ofNat b.toNat, bs)
  else match second? b with
    | none => .error (some 1)
    | some (low, high, count) =>
      (readTail 1 low high (leadBits b count) count bs).map fun (n, rest) => (Char.ofNat n, rest)

def decodeWith : Nat → Nat → List Char → List UInt8 → Except Fault (List Char)
  | _, _, out, [] => .ok out.reverse
  | 0, _, out, _ => .ok out.reverse
  | fuel + 1, index, out, b :: bs =>
    match next b bs with
    | .ok (c, rest) => decodeWith fuel (index + c.utf8Size) (c :: out) rest
    | .error length => .error ⟨index, length⟩

def decode (bytes : List UInt8) : Except Fault (List Char) := decodeWith bytes.length 0 [] bytes

def encodeChar (c : Char) : List UInt8 :=
  let n := c.toNat
  let tail (k : Nat) : UInt8 := UInt8.ofNat (0x80 + n / Nat.pow 64 k % 64)
  if n < 0x80 then [UInt8.ofNat n]
  else if n < 0x800 then [UInt8.ofNat (0xC0 + n / 64), tail 0]
  else if n < 0x10000 then [UInt8.ofNat (0xE0 + n / 4096), tail 1, tail 0]
  else [UInt8.ofNat (0xF0 + n / 262144), tail 2, tail 1, tail 0]

def encode (cs : List Char) : List UInt8 := cs.flatMap encodeChar

end Fanout.Utf8
