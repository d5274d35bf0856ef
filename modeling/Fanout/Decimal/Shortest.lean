/-!
# The shortest decimal that reads back

* `Double` : sign, significand and power of two of a finite double, and `Double.ofFloat?`;
* `Decimal` : a natural number times a power of ten;
* `Double.shortest` : the decimal with the fewest digits inside the interval of reals that round to
  the double, and of those the nearest one.

For each number of digits only the two neighbours of the value on that decimal grid are tried: if a
point of the grid lies in the interval, one of the two does.
-/

namespace Fanout

/-- The value `digits * 10 ^ exponent`. -/
structure Decimal where
  digits : Nat
  exponent : Int
  deriving Repr, DecidableEq

/-- The finite double `± significand * 2 ^ power`. -/
structure Double where
  negative : Bool
  significand : Nat
  power : Int
  /-- Whether the gap to the next smaller double is half of the gap to the next larger one. -/
  narrowBelow : Bool
  deriving Repr, DecidableEq

namespace Double

/-- The parts of a double, unless it is an infinity or not a number. -/
def ofFloat? (x : Float) : Option Double :=
  let bits := x.toBits.toNat
  let fraction : Nat := bits % Nat.pow 2 52
  let biased : Nat := bits / Nat.pow 2 52 % Nat.pow 2 11
  let negative := bits / Nat.pow 2 63 == 1
  if biased == 2047 then none
  else if biased == 0 then some ⟨negative, fraction, -1074, false⟩
  else some ⟨negative, Nat.pow 2 52 + fraction, (biased : Int) - 1075, fraction == 0 && biased > 1⟩

def fraction (d : Double) : Nat × Nat :=
  if 0 ≤ d.power then (d.significand * Nat.pow 2 d.power.toNat, 1)
  else (d.significand, Nat.pow 2 (-d.power).toNat)

/-- Whether the value `digits * 10 ^ exponent` rounds to the magnitude of the double. -/
def rounds (d : Double) (v : Decimal) : Bool :=
  -- all quantities are multiplied by `4 * 2 ^ b * 10 ^ a`
  let up := if 0 ≤ d.power then Nat.pow 2 d.power.toNat else 1
  let down := if 0 ≤ d.power then 1 else Nat.pow 2 (-d.power).toNat
  let tenUp := if 0 ≤ v.exponent then Nat.pow 10 v.exponent.toNat else 1
  let tenDown := if 0 ≤ v.exponent then 1 else Nat.pow 10 (-v.exponent).toNat
  let value := 4 * v.digits * tenUp * down
  let low := (4 * d.significand - (if d.narrowBelow then 1 else 2)) * up * tenDown
  let high := (4 * d.significand + 2) * up * tenDown
  if d.significand % 2 == 0 then low ≤ value && value ≤ high else low < value && value < high

/-- The largest `e` with `10 ^ e ≤ num / den`, searched downwards from a bound. -/
def leadingPower (num den : Nat) : Nat → Int → Int
  | 0, e => e
  | fuel + 1, e =>
    let fits := if 0 ≤ e then den * Nat.pow 10 e.toNat ≤ num else den ≤ num * Nat.pow 10 (-e).toNat
    if fits then e else leadingPower num den fuel (e - 1)

/-- The floor of the magnitude on the grid of multiples of `10 ^ e`, and whether nothing is lost. -/
def onGrid (d : Double) (e : Int) : Nat × Nat × Nat :=
  let (num, den) := d.fraction
  let (n, m) := if 0 ≤ e then (num, den * Nat.pow 10 e.toNat) else (num * Nat.pow 10 (-e).toNat, den)
  (n / m, n % m, m)

/-- The nearest neighbour on the grid of multiples of `10 ^ e` that rounds to the double. -/
def neighbour? (d : Double) (e : Int) : Option Decimal :=
  let (q, r, m) := d.onGrid e
  let below : Decimal := ⟨q, e⟩
  let above : Decimal := ⟨q + 1, e⟩
  match d.rounds below, d.rounds above with
  | true, true =>
    if 2 * r < m then some below
    else if 2 * r == m then (if q % 2 == 0 then some below else some above)
    else some above
  | true, false => some below
  | false, true => some above
  | false, false => none

/-- The first grid, from the coarsest on, with a neighbour that rounds to the double. -/
def search (d : Double) (top : Int) : Nat → Nat → Decimal
  | 0, _ => ⟨(d.onGrid (top - 16)).1, top - 16⟩
  | fuel + 1, count =>
    match d.neighbour? (top - count) with
    | some v => v
    | none => d.search top fuel (count + 1)

/-- A decimal without the zeros at the end of its digits. -/
def dropZeros : Nat → Decimal → Decimal
  | 0, v => v
  | fuel + 1, v =>
    if v.digits % 10 == 0 && v.digits != 0 then dropZeros fuel ⟨v.digits / 10, v.exponent + 1⟩ else v

/-- The shortest decimal that rounds to the magnitude of the double. -/
def shortest (d : Double) : Decimal :=
  if d.significand == 0 then ⟨0, 0⟩
  else
    let (num, den) := d.fraction
    let top := leadingPower num den 700 309
    dropZeros 20 (d.search top 17 0)

end Double
end Fanout
