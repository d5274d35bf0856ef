/-!
# Base64

* `Base64.encode` : bytes as characters of the standard alphabet, with padding;
* `Base64.decode` : the bytes behind characters, or the first fault. Padding must be there, bits
  that no byte needs must be zero.

Characters are given as bytes, and faults name bytes.
-/

namespace Fanout.Base64

/-- Why characters are no encoding. -/
inductive Fault where
  | symbol (byte : UInt8) (offset : Nat)
  /-- The last symbol holds bits that no byte needs. -/
  | lastSymbol (byte : UInt8) (offset : Nat)
  | length (n : Nat)
  | padding
  deriving Repr, DecidableEq

def Fault.message : Fault → String
  | .symbol byte offset => s!"Invalid symbol {byte.toNat}, offset {offset}."
  | .lastSymbol byte offset => s!"Invalid last symbol {byte.toNat}, offset {offset}."
  | .length n => s!"Invalid input length: {n}"
  | .padding => "Invalid padding"

def pad : UInt8 := 61

def value? (b : UInt8) : Option Nat :=
  if 65 ≤ b && b ≤ 90 then some (b.toNat - 65)
  else if 97 ≤ b && b ≤ 122 then some (b.toNat - 71)
  else if 48 ≤ b && b ≤ 57 then some (b.toNat + 4)
  else if b == 43 then some 62
  else if b == 47 then some 63
  else none

def symbol (n : Nat) : UInt8 :=
  if n < 26 then UInt8.ofNat (n + 65)
  else if n < 52 then UInt8.ofNat (n + 71)
  else if n < 62 then UInt8.ofNat (n - 4)
  else if n == 62 then 43
  else 47

def encode : List UInt8 → List UInt8
  | [] => []
  | [a] =>
    let n := a.toNat
    [symbol (n / 4), symbol (n % 4 * 16), pad, pad]
  | [a, b] =>
    let n := a.toNat * 256 + b.toNat
    [symbol (n / 1024), symbol (n / 16 % 64), symbol (n % 16 * 4), pad]
  | a :: b :: c :: rest =>
    let n := a.toNat * 65536 + b.toNat * 256 + c.toNat
    symbol (n / 262144) :: symbol (n / 4096 % 64) :: symbol (n / 64 % 64) :: symbol (n % 64) ::
      encode rest

/-- The bytes of four symbols at an offset, none of which may be padding. -/
def quad (offset : Nat) (a b c d : UInt8) : Except Fault (List UInt8) :=
  match value? a, value? b, value? c, value? d with
  | none, _, _, _ => .error (.symbol a offset)
  | _, none, _, _ => .error (.symbol b (offset + 1))
  | _, _, none, _ => .error (.symbol c (offset + 2))
  | _, _, _, none => .error (.symbol d (offset + 3))
  | some w, some x, some y, some z =>
    let n := ((w * 64 + x) * 64 + y) * 64 + z
    .ok [UInt8.ofNat (n / 65536), UInt8.ofNat (n / 256 % 256), UInt8.ofNat (n % 256)]

/-- The last symbols: their values, and where padding started. -/
structure Ending where
  values : List Nat := []
  last : UInt8 := 0
  padding : Nat := 0
  firstPadding : Nat := 0

/-- Reads the symbols of the last quad, which starts at an offset. -/
def readEnding (offset : Nat) : Nat → Ending → List UInt8 → Except Fault Ending
  | _, e, [] => .ok e
  | i, e, b :: bs =>
    if b == pad then
      if i < 2 then .error (.symbol b (offset + i))
      else
        readEnding offset (i + 1)
          { e with padding := e.padding + 1,
                   firstPadding := if e.padding == 0 then i else e.firstPadding } bs
    else if e.padding > 0 then .error (.symbol pad (offset + e.firstPadding))
    else match value? b with
      | none => .error (.symbol b (offset + i))
      | some v => readEnding offset (i + 1) { e with values := e.values ++ [v], last := b } bs

/-- The bytes of the last quad. -/
def closeEnding (offset : Nat) (e : Ending) : Except Fault (List UInt8) :=
  let count := e.values.length
  if count < 2 then .error (.length (offset + count))
  else if (e.padding + count) % 4 != 0 then .error .padding
  else
    let n := (e.values ++ List.replicate (4 - count) 0).foldl (fun n v => n * 64 + v) 0
    let bytes := [UInt8.ofNat (n / 65536), UInt8.ofNat (n / 256 % 256), UInt8.ofNat (n % 256)]
    let used := count * 6 / 8
    if n % Nat.pow 256 (3 - used) != 0 then .error (.lastSymbol e.last (offset + count - 1))
    else .ok (bytes.take used)

/-- Decodes quads from an offset on. The last four symbols or fewer may be padded. -/
def decodeFrom (offset : Nat) : List UInt8 → Except Fault (List UInt8)
  | a :: b :: c :: d :: e :: rest => do
    let bytes ← quad offset a b c d
    let more ← decodeFrom (offset + 4) (e :: rest)
    .ok (bytes ++ more)
  | last => do
    let ending ← readEnding offset 0 {} last
    closeEnding offset ending

def decode (symbols : List UInt8) : Except Fault (List UInt8) :=
  if symbols.isEmpty then .ok []
  else
    let last := symbols.getLastD 0
    if symbols.length % 4 == 1 && last != pad && (value? last).isNone then
      .error (.symbol last (symbols.length - 1))
    else decodeFrom 0 symbols

end Fanout.Base64
