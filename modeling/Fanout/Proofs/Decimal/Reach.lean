import Fanout.Proofs.Decimal.Range

/-!
# Doubles that grow

* `Range.Reaches`, `Reaching` : a positive number that is infinite, or at least two to a power;
* `Range.reaches_round`, `Range.Reaches.pack` : rounding keeps the leading bit, packing keeps the power;
* `Reaching.mul` : the powers of factors add up, also where a product becomes infinite;
* `reaching_ofNat` : a natural number reaches each power of two that is no larger than it;
* `Reaching.lt` : what reaches a power is above all numbers that stay below it.

A product of a small constant and a count of any size is so compared with a bound. Counts that are too small
for it are few, and each of them can be computed.
-/

namespace Fanout
open Float.Model Float.Model.UnpackedFloat

namespace Range

/-! ## Unpacked numbers -/

/-- A positive number that is infinite, or has 53 bits and is at least two to the power of `j`. -/
def Reaches (j : Int) : UnpackedFloat → Prop
  | .infinity .positive => True
  | .finite .positive m e _ => 2 ^ 52 ≤ m ∧ m < 2 ^ 53 ∧ j ≤ e + 52
  | _ => False

instance (j : Int) (u : UnpackedFloat) : Decidable (Reaches j u) :=
  match u with
  | .infinity .positive => isTrue trivial
  | .finite .positive m e _ => inferInstanceAs (Decidable (2 ^ 52 ≤ m ∧ m < 2 ^ 53 ∧ j ≤ e + 52))
  | .infinity .negative | .finite .negative .. | .zero _ | .notANumber => isFalse id

section
variable {i j : Int} {u v : UnpackedFloat}

theorem Reaches.cases (h : Reaches j u) :
    u = .infinity .positive ∨
      ∃ m e hm, u = .finite .positive m e hm ∧ 2 ^ 52 ≤ m ∧ m < 2 ^ 53 ∧ j ≤ e + 52 := by
  cases u with
  | finite s m e hm =>
    cases s with
    | positive => exact .inr ⟨m, e, hm, rfl, h⟩
    | negative => exact h.elim
  | infinity s =>
    cases s with
    | positive => exact .inl rfl
    | negative => exact h.elim
  | zero s => exact h.elim
  | notANumber => exact h.elim

/-- Rounding keeps the sign. -/
theorem round_sign (s : Sign) (m : Nat) (e : Int) (acc : Accuracy) :
    roundWithAccuracy Format.binary64 s m e acc = .zero s ∨
      ∃ m' e' hm, roundWithAccuracy Format.binary64 s m e acc = .finite s m' e' hm := by
  unfold roundWithAccuracy
  generalize shiftToTargetExponent Format.binary64 m e acc = first
  obtain ⟨em₁, e₁⟩ := first
  dsimp only
  by_cases hzero : (shiftToTargetExponent Format.binary64 em₁.roundedMantissa e₁ .exact).1.mantissa = 0
  · rw [dif_pos hzero]
    exact .inl rfl
  · rw [dif_neg hzero]
    exact .inr ⟨_, _, Nat.pos_of_ne_zero hzero, rfl⟩

/-- Rounding keeps the leading bit. -/
theorem reaches_round {m : Nat} {e : Int} (hlog : 52 ≤ m.log2) (hj : j + 1 ≤ totalExponent m e)
    (hlow : -1022 ≤ j) : Reaches j (roundWithAccuracy Format.binary64 .positive m e .exact) := by
  have hlarge := @round_large .positive m e .exact hlog (by omega)
  have hbits := @unpacked_round .positive m e .exact (max (e + 1) (totalExponent m e - 52))
    (by omega) (by omega) (by omega)
  obtain hround | ⟨m', e', hm, hround⟩ := round_sign .positive m e .exact
  · rw [hround] at hlarge
    exact hlarge.elim
  · rw [hround] at hlarge hbits ⊢
    obtain ⟨hge, he⟩ := hlarge
    exact ⟨hge, hbits.1, by omega⟩

theorem reaches_roundUp {m : Nat} {e : Int} (hm : 0 < m) (hj : j + 1 ≤ totalExponent m e)
    (hlow : -1022 ≤ j) : Reaches j (UnpackedFloat.round Format.binary64 .positive m e) := by
  have hlog := log2_shiftLeft hm (e - Format.binary64.targetExponent (totalExponent m e)).toNat
  have htarget := targetExponent_eq (totalExponent m e)
  unfold UnpackedFloat.round decreaseExponent
  refine reaches_round ?_ ?_ hlow
  · unfold totalExponent at *
    omega
  · unfold totalExponent at *
    rw [hlog]
    omega

theorem Reaches.mul (hu : Reaches i u) (hv : Reaches j v) (hlow : -1022 ≤ i + j) :
    Reaches (i + j) (UnpackedFloat.mul Format.binary64 u v) := by
  obtain rfl | ⟨m₁, e₁, hm₁, rfl, hge₁, -, he₁⟩ := hu.cases
  · obtain rfl | ⟨m₂, e₂, hm₂, rfl, -⟩ := hv.cases
    · trivial
    · trivial
  · obtain rfl | ⟨m₂, e₂, hm₂, rfl, hge₂, -, he₂⟩ := hv.cases
    · trivial
    · have hlog : 104 ≤ (m₁ * m₂).log2 := by
        refine (Nat.le_log2 (Nat.ne_of_gt (Nat.mul_pos hm₁ hm₂))).2 ?_
        calc 2 ^ 104 = 2 ^ 52 * 2 ^ 52 := by decide
          _ ≤ m₁ * m₂ := Nat.mul_le_mul hge₁ hge₂
      refine reaches_round (by omega) ?_ hlow
      unfold totalExponent
      omega

/-! ## Packing -/

theorem unpack_infinity : UnpackedFloat.unpack Format.binary64 (packedInfinity Format.binary64 .positive) =
    .infinity .positive := rfl

theorem Reaches.pack (h : Reaches j u) (hlow : -1022 ≤ j) : Reaches j (Float.Model.pack u).unpack := by
  obtain rfl | ⟨m, e, hm, rfl, hge, hlt, he⟩ := h.cases
  · show Reaches j (UnpackedFloat.unpack Format.binary64 (packedInfinity Format.binary64 .positive))
    rw [unpack_infinity]
    trivial
  · show Reaches j (UnpackedFloat.unpack Format.binary64 (UnpackedFloat.pack Format.binary64 _))
    by_cases hhigh : e ≤ 971
    · rw [unpack_pack_normal hge hlt (by omega) hhigh]
      exact ⟨hge, hlt, he⟩
    · rw [pack_overflow (by omega), unpack_infinity]
      trivial

/-! ## Natural numbers -/

theorem reaches_ofNat {n j : Nat} (hn : 2 ^ j ≤ n) : Reaches j (UnpackedFloat.ofNat Format.binary64 n) := by
  have hpos : 0 < n := Nat.lt_of_lt_of_le (Nat.two_pow_pos j) hn
  have hlog := (Nat.le_log2 (Nat.ne_of_gt hpos)).2 hn
  have hround := @reaches_roundUp j n 0 hpos (by unfold totalExponent; omega) (by omega)
  have hcompare : compare (n : Int) 0 = .gt := Int.compare_eq_gt.2 (by omega)
  show Reaches j (UnpackedFloat.normalize Format.binary64 n 0 .positive)
  unfold UnpackedFloat.normalize
  rw [hcompare]
  exact hround

theorem reaches_ofScientific {n e j : Nat} (he : e ≤ 2048) (hn : 2 ^ j ≤ n * 10 ^ e) :
    Reaches j (UnpackedFloat.ofScientific Format.binary64 n e) := by
  have hpos : 0 < n * 10 ^ e := Nat.lt_of_lt_of_le (Nat.two_pow_pos j) hn
  have hne : n ≠ 0 := Nat.ne_of_gt (Nat.pos_of_mul_pos_right hpos)
  have hlog := (Nat.le_log2 (Nat.ne_of_gt hpos)).2 hn
  have hshift := log2_decimal hpos
  rw [ofScientific_eq_round hne he]
  refine reaches_round (by omega) ?_ (by omega)
  unfold totalExponent
  omega

/-! ## Comparison -/

theorem Reaches.compare_gt (hu : Reaches j u) (hv : Unpacked (j - 53) v) :
    UnpackedFloat.compare v u = some .lt := by
  obtain ⟨s, rfl⟩ | ⟨s, m₂, e₂, hm₂, rfl, -, he₂⟩ := hv.cases
  · obtain rfl | ⟨m, e, hm, rfl, -⟩ := hu.cases
    · rfl
    · rfl
  · obtain rfl | ⟨m, e, hm, rfl, -, -, he⟩ := hu.cases
    · cases s <;> rfl
    · cases s with
      | negative => rfl
      | positive =>
        have hlt : compare e₂ e = .lt := Int.compare_eq_lt.2 (by omega)
        show some ((compare e₂ e).then (compare m₂ m)) = some .lt
        rw [hlt]
        rfl

end
end Range

/-! ## Numbers -/

/-- A positive double that is infinite, or at least two to the power of `j`. -/
structure Reaching (j : Int) (x : Float) : Prop where
  reaches : Range.Reaches j x.toModel.unpack

instance (j : Int) (x : Float) : Decidable (Reaching j x) :=
  decidable_of_iff (Range.Reaches j x.toModel.unpack) ⟨.mk, Reaching.reaches⟩

section
open Range
variable {i j : Int} {x y : Float}

theorem Reaching.mul (hx : Reaching i x) (hy : Reaching j y) (hlow : -1022 ≤ i + j) :
    Reaching (i + j) (x * y) :=
  ⟨(hx.reaches.mul hy.reaches hlow).pack hlow⟩

/-- What reaches a power of two is above all numbers that stay below it. -/
theorem Reaching.lt (hx : Reaching j x) (hy : Within (j - 53) y) : y < x := by
  have hlt : UnpackedFloat.lt y.toModel.unpack x.toModel.unpack = true := by
    unfold UnpackedFloat.lt
    rw [hx.reaches.compare_gt hy.unpacked]
    rfl
  exact decide_eq_true hlt

/-- A natural number reaches each power of two that is no larger than it. -/
theorem reaching_ofNat {n j : Nat} (hn : 2 ^ j ≤ n) : Reaching j (Float.ofNat n) := by
  show Reaching j (Float.ofScientific n false 0)
  unfold Float.ofScientific
  split
  · rename_i hfits
    have hone : Reaching 0 (getElem Float.exactlyRepresentablePowersOfTen 0 (by decide)) := by
      decide +kernel
    have hword : 2 ^ j ≤ n.toUInt64.toNat := by
      rw [UInt64.toNat_ofNat_of_lt' (Nat.lt_trans hfits.1 (by decide))]
      exact hn
    have hnat : Reaching j n.toUInt64.toFloat := ⟨(reaches_ofNat hword).pack (by omega)⟩
    exact hnat.mul hone (by omega)
  · exact ⟨(reaches_ofScientific (Nat.zero_le _) (by rwa [Nat.pow_zero, Nat.mul_one])).pack (by omega)⟩

end
end Fanout
