import Fanout.Remote.Percent
import Fanout.Text.Ascii

/-!
# Hosts of addresses

* `HostName` : the part of an address that names a machine;
* `HostName.ofText` : reads the host of an address. A name whose last part is a number must be an
  IPv4 address, of one to four parts in decimal, octal or hexadecimal digits;
* `AddressFault` : why a text is no address.
-/

namespace Fanout

inductive AddressFault
  | noScheme
  | emptyHost
  | badName
  | badCharacter
  | badIpv4
  | badIpv6
  | badPort
  deriving Repr, DecidableEq

def AddressFault.message : AddressFault → String
  | .noScheme => "relative URL without a base"
  | .emptyHost => "empty host"
  | .badName => "invalid international domain name"
  | .badCharacter => "invalid domain character"
  | .badIpv4 => "invalid IPv4 address"
  | .badIpv6 => "invalid IPv6 address"
  | .badPort => "invalid port number"

inductive HostName
  | name (text : String)
  | ipv4 (number : Nat)
  | ipv6 (text : String)
  deriving Repr, DecidableEq

namespace HostName

/-! ## IPv4 -/

def digitsValue? (base : Nat) (cs : List Char) : Option Nat :=
  cs.foldlM (fun n c => ((Text.hexValue? c).filter (· < base)).map (base * n + ·)) 0

def partValue? : List Char → Option Nat
  | [] => none
  | '0' :: 'x' :: rest | '0' :: 'X' :: rest => digitsValue? 16 rest
  | '0' :: c :: rest => digitsValue? 8 (c :: rest)
  | cs => digitsValue? 10 cs

/-- The parts of a name between dots, without an empty last one. -/
def parts (cs : List Char) : List (List Char) :=
  let ps := Text.splitAt (· == '.') cs
  if ps.length > 1 && ps.getLast? == some [] then ps.dropLast else ps

def endsInNumber (cs : List Char) : Bool :=
  match (parts cs).getLast? with
  | some part => (!part.isEmpty && part.all Text.isAsciiDigit) || (partValue? part).isSome
  | none => false

/-- The address with some parts, the last of which fills all bytes that the others leave. -/
def address? (values : List Nat) : Option Nat :=
  match values.getLast? with
  | none => none
  | some last =>
    let leading := values.dropLast
    if values.length > 4 || leading.any (255 < ·) || Nat.pow 256 (4 - leading.length) ≤ last then none
    else some (leading.zipIdx.foldl (fun n (v, i) => n + v * Nat.pow 256 (3 - i)) last)

def ipv4? (cs : List Char) : Option Nat := ((parts cs).mapM partValue?).bind address?

/-! ## IPv6 -/

def isGroup (cs : List Char) : Bool :=
  1 ≤ cs.length && cs.length ≤ 4 && cs.all fun c => (Text.hexValue? c).isSome

/-- A number up to 255 without needless zeros. -/
def isByteText (cs : List Char) : Bool :=
  !cs.isEmpty && cs.all Text.isAsciiDigit && (cs.length == 1 || cs.head? != some '0') &&
    (digitsValue? 10 cs).any (· ≤ 255)

def isDotted (cs : List Char) : Bool :=
  let ps := Text.splitAt (· == '.') cs
  ps.length == 4 && ps.all isByteText

/-- The number of groups in a text; an address with dots at its end counts as two. -/
def groups? (atEnd : Bool) (cs : List Char) : Option Nat :=
  if cs.isEmpty then some 0
  else
    let ps := Text.splitAt (· == ':') cs
    let last := ps.getLastD []
    if !ps.dropLast.all isGroup then none
    else if isGroup last then some ps.length
    else if atEnd && isDotted last then some (ps.length + 1)
    else none

/-- The texts before and behind two colons. -/
def cutAtGap : List Char → Option (List Char × List Char)
  | ':' :: ':' :: rest => some ([], rest)
  | [] => none
  | c :: cs => (cutAtGap cs).map fun (front, back) => (c :: front, back)

def isIpv6 (cs : List Char) : Bool :=
  match cutAtGap cs with
  | none => groups? true cs == some 8
  | some (front, back) =>
    match groups? false front, groups? true back with
    | some m, some n => m + n ≤ 7
    | _, _ => false

/-! ## Names -/

/-- The characters that no name may hold. -/
def isForbidden (c : Char) : Bool :=
  c ≤ ' ' || ['#', '/', ':', '<', '>', '?', '@', '[', '\\', ']', '^', '|'].contains c

def isForbiddenInName (c : Char) : Bool := isForbidden c || c == '%' || c == '\x7f'

/-- Reads a host between square brackets behind the first of them. -/
def ofBrackets (cs : List Char) : Except AddressFault HostName :=
  if cs.getLast? == some ']' && isIpv6 cs.dropLast then .ok (.ipv6 (String.ofList cs.dropLast))
  else .error .badIpv6

/-- Reads the host of an address with a well-known scheme. -/
def ofText (cs : List Char) : Except AddressFault HostName :=
  match cs with
  | '[' :: rest => ofBrackets rest
  | _ =>
    match Utf8.decode (Percent.decode cs) with
    | .error _ => .error .badName
    | .ok decoded =>
      if decoded.any isForbiddenInName then .error .badName
      else if decoded.isEmpty then .error .emptyHost
      else if endsInNumber decoded then (ipv4? decoded).elim (.error .badIpv4) (.ok ∘ .ipv4)
      else .ok (.name (String.ofList (Text.lowerAscii decoded)))

/-- Reads the host of an address with any other scheme. -/
def ofOtherText (cs : List Char) : Except AddressFault HostName :=
  match cs with
  | '[' :: rest => ofBrackets rest
  | _ =>
    if cs.any isForbidden then .error .badCharacter
    else .ok (.name (String.ofList (Percent.encode Percent.isGraphic cs)))

end HostName
end Fanout
