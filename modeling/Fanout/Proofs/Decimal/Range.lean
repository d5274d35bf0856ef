import Mathlib.Algebra.Ring.Nat
import Fanout.Json.Token

/-!
# Doubles that are in range

* `Range.Unpacked`, `Within` : a number that is zero, or at most 53 bits times two to a power that is
  bounded. Such a number is finite (`Within.isFinite`), and every finite number is within the largest power
  (`within_of_isFinite`);
* `Range.unpacked_round`, `Range.unpacked_pack` : rounding moves the bound by at most one, packing keeps it;
* `Range.unpack_pack_normal` : a number of 53 bits is read back as it was packed;
* `Within.mul`, `Within.add`, `Within.div`, `Within.neg` : the bounds of results. They are generous, since
  what is computed stays far from the largest double;
* `within_ofScientific`, `powerOfTen_large` : natural numbers, and powers of ten.
-/

namespace Fanout
open Float.Model Float.Model.UnpackedFloat

namespace Range

/-! ## Mantissas -/

theorem mantissa_shiftRight (em : ExtendedMantissa) (k : Nat) : (em >>> k).mantissa = em.mantissa / 2 ^ k := by
  induction k with
  | zero => exact (Nat.div_one _).symm
  | succ k ih =>
    show ((em >>> k).mantissa / 2) = em.mantissa / 2 ^ (k + 1)
    rw [ih, Nat.div_div_eq_div_mul, Nat.pow_succ]

theorem le_roundedMantissa (em : ExtendedMantissa) : em.mantissa ≤ em.roundedMantissa := by
  obtain ⟨m, round, sticky⟩ := em
  cases round <;> cases sticky <;>
    simp [ExtendedMantissa.roundedMantissa, ExtendedMantissa.accuracy, Accuracy.roundToNearestEven]

theorem roundedMantissa_le (em : ExtendedMantissa) : em.roundedMantissa ≤ em.mantissa + 1 := by
  obtain ⟨m, round, sticky⟩ := em
  have hparity : m % 2 ≤ 1 := by omega
  cases round <;> cases sticky <;>
    simp [ExtendedMantissa.roundedMantissa, ExtendedMantissa.accuracy, Accuracy.roundToNearestEven, hparity]

theorem mantissa_ofMantissaAndAccuracy (m : Nat) (acc : Accuracy) :
    (ExtendedMantissa.ofMantissaAndAccuracy m acc).mantissa = m := by
  cases acc with
  | exact => rfl
  | inexact o => cases o <;> rfl

theorem div_two_pow_lt {m k : Nat} (h : m.log2 ≤ 52 + k) : m / 2 ^ k < 2 ^ 53 := by
  rw [Nat.div_lt_iff_lt_mul (Nat.two_pow_pos k), ← Nat.pow_add]
  exact Nat.lt_of_lt_of_le Nat.lt_log2_self (Nat.pow_le_pow_right (by decide) (by omega))

theorem targetExponent_eq (total : Int) : Format.binary64.targetExponent total = max (total - 53) (-1074) := rfl

/-- How far a mantissa is shifted. -/
def shiftOf (m : Nat) (e : Int) : Nat := (max (totalExponent m e - 53) (-1074) - e).toNat

theorem shiftToTargetExponent_eq (m : Nat) (e : Int) (acc : Accuracy) :
    (shiftToTargetExponent Format.binary64 m e acc).1.mantissa = m / 2 ^ shiftOf m e ∧
      (shiftToTargetExponent Format.binary64 m e acc).2 = e + shiftOf m e := by
  refine ⟨?_, rfl⟩
  show (ExtendedMantissa.ofMantissaAndAccuracy m acc >>> shiftOf m e).mantissa = _
  rw [mantissa_shiftRight, mantissa_ofMantissaAndAccuracy]

theorem shifted_lt (m : Nat) (e : Int) : m / 2 ^ shiftOf m e < 2 ^ 53 := by
  refine div_two_pow_lt ?_
  unfold shiftOf totalExponent
  omega

/-! ## Unpacked numbers -/

/-- A number that is zero, or at most 53 bits times two to a power of at most `top`. -/
def Unpacked (top : Int) : UnpackedFloat → Prop
  | .zero _ => True
  | .finite _ m e _ => m < 2 ^ 53 ∧ e ≤ top
  | _ => False

instance (top : Int) (u : UnpackedFloat) : Decidable (Unpacked top u) := by
  cases u <;> unfold Unpacked <;> infer_instance

theorem Unpacked.cases {top : Int} {u : UnpackedFloat} (h : Unpacked top u) :
    (∃ s, u = .zero s) ∨ ∃ s m e hm, u = .finite s m e hm ∧ m < 2 ^ 53 ∧ e ≤ top := by
  cases u with
  | finite s m e hm => exact .inr ⟨s, m, e, hm, rfl, h⟩
  | zero s => exact .inl ⟨s, rfl⟩
  | infinity s => exact h.elim
  | notANumber => exact h.elim

theorem Unpacked.mono {a b : Int} {u : UnpackedFloat} (h : Unpacked a u) (hab : a ≤ b) : Unpacked b u := by
  obtain ⟨s, rfl⟩ | ⟨s, m, e, hm, rfl, hlt, he⟩ := h.cases
  · trivial
  · exact ⟨hlt, Int.le_trans he hab⟩

theorem Unpacked.isFinite {top : Int} {u : UnpackedFloat} (h : Unpacked top u) : u.isFinite = true := by
  obtain ⟨s, rfl⟩ | ⟨s, m, e, hm, rfl, -, -⟩ := h.cases
  · rfl
  · rfl

theorem Unpacked.neg {top : Int} {u : UnpackedFloat} (h : Unpacked top u) : Unpacked top u.neg := by
  obtain ⟨s, rfl⟩ | ⟨s, m, e, hm, rfl, hbounds⟩ := h.cases
  · trivial
  · exact hbounds

/-- A finite number of 53 bits times two to a power of at least `bottom`. -/
def Large (bottom : Int) : UnpackedFloat → Prop
  | .finite _ m e _ => 2 ^ 52 ≤ m ∧ bottom ≤ e
  | _ => False

instance (bottom : Int) (u : UnpackedFloat) : Decidable (Large bottom u) := by
  cases u <;> unfold Large <;> infer_instance

theorem Large.exists_eq {bottom : Int} {u : UnpackedFloat} (h : Large bottom u) :
    ∃ s m e hm, u = .finite s m e hm ∧ 2 ^ 52 ≤ m ∧ bottom ≤ e := by
  cases u with
  | finite s m e hm => exact ⟨s, m, e, hm, rfl, h⟩
  | zero s => exact h.elim
  | infinity s => exact h.elim
  | notANumber => exact h.elim

theorem Large.mono {a b : Int} {u : UnpackedFloat} (h : Large b u) (hab : a ≤ b) : Large a u := by
  obtain ⟨s, m, e, hm, rfl, hge, he⟩ := h.exists_eq
  exact ⟨hge, Int.le_trans hab he⟩

/-- Rounding moves the power by at most one. -/
theorem unpacked_round {s : Sign} {m : Nat} {e : Int} (acc : Accuracy) {k : Int}
    (he : e + 1 ≤ k) (htotal : totalExponent m e - 52 ≤ k) (hk : -1073 ≤ k) :
    Unpacked k (roundWithAccuracy Format.binary64 s m e acc) := by
  obtain ⟨hm₁, he₁⟩ := shiftToTargetExponent_eq m e acc
  have hlt₁ := shifted_lt m e
  unfold roundWithAccuracy
  generalize shiftToTargetExponent Format.binary64 m e acc = first at hm₁ he₁
  obtain ⟨em₁, e₁⟩ := first
  dsimp only at hm₁ he₁ ⊢
  have hle := roundedMantissa_le em₁
  obtain ⟨hm₂, he₂⟩ := shiftToTargetExponent_eq em₁.roundedMantissa e₁ .exact
  have hlt₂ := shifted_lt em₁.roundedMantissa e₁
  have hlog : em₁.roundedMantissa.log2 ≤ 53 := by
    by_cases hzero : em₁.roundedMantissa = 0
    · rw [hzero]
      decide
    · exact Nat.le_of_lt_succ ((Nat.log2_lt hzero).2 (by omega))
  by_cases hzero : (shiftToTargetExponent Format.binary64 em₁.roundedMantissa e₁ .exact).1.mantissa = 0
  · rw [dif_pos hzero]
    trivial
  · rw [dif_neg hzero]
    refine ⟨by rw [hm₂]; exact hlt₂, ?_⟩
    rw [he₂]
    unfold shiftOf totalExponent at *
    omega

/-! ## Packing -/

/-- What a packed number unpacks to, unless its power stands for what is not finite. -/
theorem unpack_spec {b : BitVec 64} (hb : @unpackExponent Format.binary64 b ≠ -1#11) :
    Unpacked (max (((@unpackExponent Format.binary64 b).toNat : Int) - 1075) (-1074))
        (UnpackedFloat.unpack Format.binary64 b) ∧
      (@unpackExponent Format.binary64 b ≠ 0#11 →
        Large (((@unpackExponent Format.binary64 b).toNat : Int) - 1075)
          (UnpackedFloat.unpack Format.binary64 b)) := by
  unfold UnpackedFloat.unpack
  dsimp only
  rw [if_neg hb]
  by_cases hzero : @unpackExponent Format.binary64 b = 0#11
  · rw [if_pos hzero]
    refine ⟨?_, fun h => absurd hzero h⟩
    by_cases hmantissa : @unpackMantissa Format.binary64 b = 0#52
    · rw [dif_pos hmantissa]
      trivial
    · rw [dif_neg hmantissa]
      refine ⟨Nat.lt_trans (BitVec.isLt _) (by decide), ?_⟩
      rw [hzero]
      exact Int.le_max_right (((0#11).toNat : Int) - 1075) (-1074)
  · rw [if_neg hzero]
    refine ⟨⟨BitVec.isLt _, Int.le_max_left _ _⟩, fun _ => ⟨?_, Int.le_refl _⟩⟩
    rw [BitVec.toNat_append]
    exact Nat.left_le_or

theorem unpack_components {s : Sign} {ev : BitVec 11} {mv : BitVec 52} (hev : ev ≠ -1#11) :
    Unpacked (max ((ev.toNat : Int) - 1075) (-1074))
        (UnpackedFloat.unpack Format.binary64 (packComponents Format.binary64 s ev mv)) ∧
      (ev ≠ 0#11 → Large ((ev.toNat : Int) - 1075)
        (UnpackedFloat.unpack Format.binary64 (packComponents Format.binary64 s ev mv))) := by
  have hexponent : unpackExponent (packComponents Format.binary64 s ev mv) = ev := unpackExponent_packComponents
  have hspec := @unpack_spec (packComponents Format.binary64 s ev mv) (by rwa [hexponent])
  rwa [hexponent] at hspec

theorem ofNat_ne_allOnes {n : Nat} (h : n < 2047) : BitVec.ofNat 11 n ≠ -1#11 := by
  intro heq
  have hnat := congrArg BitVec.toNat heq
  rw [BitVec.toNat_ofNat, Nat.mod_eq_of_lt (by omega)] at hnat
  exact absurd hnat (by simp; omega)

/-- The power of a finite number as it is packed. -/
def biased (e : Int) : Nat := (e + 1075).toNat

theorem pack_finite {s : Sign} {m : Nat} {e : Int} {hm : 0 < m} (he : e ≤ 971) :
    UnpackedFloat.pack Format.binary64 (.finite s m e hm) =
      packComponents Format.binary64 s (if m.log2 = 52 then BitVec.ofNat 11 (biased e) else 0#11)
        (BitVec.ofNat 52 m) := by
  have hbiased : (e + (Format.binary64.exponentBias : Int) + (52 : Nat)).toNat = biased e := by
    show (e + 1023 + 52).toNat = (e + 1075).toNat
    omega
  have hfits : ¬ 2 ^ 11 ≤ biased e + 1 := by
    unfold biased
    omega
  unfold UnpackedFloat.pack
  dsimp only
  rw [hbiased, if_neg hfits]
  have hnormal : m.log2 + 1 = Format.binary64.mantissaBits ↔ m.log2 = 52 := Nat.succ_inj
  by_cases hlog : m.log2 = 52
  · rw [if_pos (hnormal.2 hlog), if_pos hlog]
  · rw [if_neg fun h => hlog (hnormal.1 h), if_neg hlog]

theorem unpackSign_packComponents {s : Sign} {ev : BitVec 11} {mv : BitVec 52} :
    unpackSign (packComponents Format.binary64 s ev mv) = s.toBitVec := by
  ext i hi
  have hbit : (unpackSign (packComponents Format.binary64 s ev mv))[i] =
      (s.toBitVec ++ ev ++ mv : BitVec (1 + 11 + 52)).getLsbD (63 + i) := BitVec.getElem_extractLsb' hi
  rw [hbit, BitVec.getLsbD_append, BitVec.getLsbD_append, if_neg (by omega), if_neg (by omega),
    show 63 + i - 52 - 11 = i by omega, BitVec.getLsbD_eq_getElem hi]

theorem ofBitVec_toBitVec (s : Sign) : Sign.ofBitVec s.toBitVec = s := by
  cases s <;> rfl

/-- A number of 53 bits is read back. -/
theorem unpack_pack_normal {s : Sign} {m : Nat} {e : Int} {hm : 0 < m} (hge : 2 ^ 52 ≤ m)
    (hlt : m < 2 ^ 53) (hlow : -1074 ≤ e) (hhigh : e ≤ 971) :
    UnpackedFloat.unpack Format.binary64 (UnpackedFloat.pack Format.binary64 (.finite s m e hm)) =
      .finite s m e hm := by
  have hlog : m.log2 = 52 := by
    have hle := (Nat.le_log2 (Nat.ne_of_gt hm)).2 hge
    have hlt := (Nat.log2_lt (Nat.ne_of_gt hm)).2 hlt
    omega
  have hbiased : biased e < 2047 ∧ 0 < biased e ∧ (biased e : Int) - 1075 = e := by
    unfold biased
    omega
  obtain ⟨hsmall, hpos, hback⟩ := hbiased
  have hnat : (BitVec.ofNat 11 (biased e)).toNat = biased e := by
    rw [BitVec.toNat_ofNat, Nat.mod_eq_of_lt (by omega)]
  have hne : BitVec.ofNat 11 (biased e) ≠ 0#11 := by
    intro hzero
    rw [hzero] at hnat
    exact absurd hnat.symm (Nat.ne_of_gt hpos)
  have hmantissa : (1#1 ++ BitVec.ofNat 52 m).toNat = m := by
    rw [BitVec.toNat_append, BitVec.toNat_ofNat, BitVec.toNat_ofNat,
      ← Nat.shiftLeft_add_eq_or_of_lt (Nat.mod_lt m (by decide)), Nat.shiftLeft_eq]
    omega
  rw [pack_finite hhigh, if_pos hlog]
  generalize hb : packComponents Format.binary64 s (BitVec.ofNat 11 (biased e)) (BitVec.ofNat 52 m) = b
  have hsign : @unpackSign Format.binary64 b = s.toBitVec := by rw [← hb, unpackSign_packComponents]
  have hexponent : @unpackExponent Format.binary64 b = BitVec.ofNat 11 (biased e) := by
    rw [← hb]
    exact unpackExponent_packComponents
  have hbits : @unpackMantissa Format.binary64 b = BitVec.ofNat 52 m := by
    rw [← hb]
    exact unpackMantissa_packComponents
  unfold UnpackedFloat.unpack
  dsimp only
  rw [if_neg (by rw [hexponent]; exact ofNat_ne_allOnes hsmall), if_neg (by rw [hexponent]; exact hne),
    UnpackedFloat.finite.injEq, hsign, hexponent, hbits, ofBitVec_toBitVec, hnat]
  exact ⟨rfl, hmantissa, hback⟩

theorem pack_overflow {s : Sign} {m : Nat} {e : Int} {hm : 0 < m} (he : 972 ≤ e) :
    UnpackedFloat.pack Format.binary64 (.finite s m e hm) = packedInfinity Format.binary64 s := by
  have hover : 2 ^ 11 ≤ (e + (Format.binary64.exponentBias : Int) + (52 : Nat)).toNat + 1 := by
    show 2 ^ 11 ≤ (e + 1023 + 52).toNat + 1
    omega
  unfold UnpackedFloat.pack
  exact if_pos hover

theorem unpacked_pack_finite {s : Sign} {m : Nat} {e : Int} {hm : 0 < m} {top : Int} (he : e ≤ top)
    (hlow : -1074 ≤ top) (hhigh : top ≤ 971) :
    Unpacked top (Float.Model.pack (.finite s m e hm)).unpack := by
  show Unpacked top (UnpackedFloat.unpack Format.binary64 (UnpackedFloat.pack Format.binary64 _))
  rw [pack_finite (by omega)]
  by_cases hlog : m.log2 = 52
  · rw [if_pos hlog]
    have hsmall : biased e < 2047 := by
      unfold biased
      omega
    refine (unpack_components (ofNat_ne_allOnes hsmall)).1.mono ?_
    rw [BitVec.toNat_ofNat, Nat.mod_eq_of_lt (by omega)]
    unfold biased
    omega
  · rw [if_neg hlog]
    have hzero : max (((0#11).toNat : Int) - 1075) (-1074) = -1074 := by decide
    exact (unpack_components (by decide)).1.mono (by rw [hzero]; exact hlow)

/-- Packing keeps the bound. A power that is too small is taken for the smallest one. -/
theorem unpacked_pack {u : UnpackedFloat} {top : Int} (h : Unpacked top u) (hlow : -1074 ≤ top)
    (hhigh : top ≤ 971) : Unpacked top (Float.Model.pack u).unpack := by
  obtain ⟨s, rfl⟩ | ⟨s, m, e, hm, rfl, -, he⟩ := h.cases
  · have hzero : max (((0 : BitVec 11).toNat : Int) - 1075) (-1074) = -1074 := by decide
    exact (unpack_components (by decide)).1.mono (by rw [hzero]; exact hlow)
  · exact unpacked_pack_finite he hlow hhigh

/-- What is packed is finite or infinite, if it is a number. -/
theorem isFinite_pack {u : UnpackedFloat} (h : u.isFinite = true)
    (hinf : (Float.Model.pack u).unpack.isInf = false) : (Float.Model.pack u).unpack.isFinite = true := by
  cases u with
  | infinity s => cases h
  | notANumber => cases h
  | zero s => cases s <;> decide
  | finite s m e hm =>
    by_cases he : e ≤ 971
    · by_cases hlow : -1074 ≤ e
      · exact (unpacked_pack_finite (Int.le_refl e) hlow he).isFinite
      · have htop : e ≤ -1074 := by omega
        exact (unpacked_pack_finite htop (by decide) (by decide)).isFinite
    · have hpack : UnpackedFloat.pack Format.binary64 (.finite s m e hm) = packedInfinity Format.binary64 s :=
        pack_overflow (by omega)
      have hunpack : (UnpackedFloat.unpack Format.binary64 (packedInfinity Format.binary64 s)).isInf = true := by
        cases s <;> decide
      rw [← hpack] at hunpack
      exact absurd (hinf.symm.trans hunpack) (by decide)

/-- Packing keeps a large number large. -/
theorem large_pack {u : UnpackedFloat} {top bottom : Int} (h : Large bottom u) (hu : Unpacked top u)
    (hlow : -1074 ≤ bottom) (hhigh : top ≤ 971) : Large bottom (Float.Model.pack u).unpack := by
  obtain ⟨s, m, e, hm, rfl, hge, hbottom⟩ := h.exists_eq
  obtain ⟨hlt, htop⟩ := hu
  show Large bottom (UnpackedFloat.unpack Format.binary64 (UnpackedFloat.pack Format.binary64 _))
  rw [unpack_pack_normal hge hlt (by omega) (by omega)]
  exact ⟨hge, hbottom⟩

/-! ## Large numbers -/

theorem le_shifted {m : Nat} {e : Int} (hlog : 52 ≤ m.log2) (hlow : -1074 ≤ totalExponent m e - 53) :
    2 ^ 52 ≤ m / 2 ^ shiftOf m e ∧ e + shiftOf m e = totalExponent m e - 53 := by
  have hne : m ≠ 0 := by
    rintro rfl
    exact absurd hlog (by decide)
  have hshift : 52 + shiftOf m e = m.log2 := by
    unfold shiftOf totalExponent at *
    omega
  refine ⟨?_, ?_⟩
  · rw [Nat.le_div_iff_mul_le (Nat.two_pow_pos _), ← Nat.pow_add, hshift]
    exact Nat.log2_self_le hne
  · unfold shiftOf totalExponent at *
    omega

/-- A mantissa of enough bits keeps them when it is rounded. -/
theorem round_large {s : Sign} {m : Nat} {e : Int} (acc : Accuracy) (hlog : 52 ≤ m.log2)
    (hlow : -1074 ≤ totalExponent m e - 53) :
    Large (totalExponent m e - 53) (roundWithAccuracy Format.binary64 s m e acc) := by
  obtain ⟨hm₁, he₁⟩ := shiftToTargetExponent_eq m e acc
  obtain ⟨hge₁, hexponent⟩ := le_shifted hlog hlow
  unfold roundWithAccuracy
  generalize shiftToTargetExponent Format.binary64 m e acc = first at hm₁ he₁
  obtain ⟨em₁, e₁⟩ := first
  dsimp only at hm₁ he₁ ⊢
  have hle := le_roundedMantissa em₁
  have hlog₂ : 52 ≤ em₁.roundedMantissa.log2 := by
    refine (Nat.le_log2 (by omega)).2 (by omega)
  obtain ⟨hm₂, he₂⟩ := shiftToTargetExponent_eq em₁.roundedMantissa e₁ .exact
  obtain ⟨hge₂, hexponent₂⟩ := le_shifted (e := e₁) hlog₂ (by unfold totalExponent at *; omega)
  rw [← hm₂] at hge₂
  rw [dif_neg (by omega)]
  refine ⟨hge₂, ?_⟩
  rw [he₂, hexponent₂]
  unfold totalExponent at *
  omega

end Range

/-! ## Numbers -/

/-- A double that is zero, or at most 53 bits times two to a power of at most `top`. -/
structure Within (top : Int) (x : Float) : Prop where
  unpacked : Range.Unpacked top x.toModel.unpack

instance (top : Int) (x : Float) : Decidable (Within top x) :=
  decidable_of_iff (Range.Unpacked top x.toModel.unpack) ⟨.mk, Within.unpacked⟩

section
open Range
variable {a b top : Int} {x y : Float}

theorem Within.mono (h : Within a x) (hab : a ≤ b) : Within b x := ⟨h.unpacked.mono hab⟩

theorem Within.isFinite (h : Within top x) : x.isFinite = true := h.unpacked.isFinite

theorem unpacked_of_isFinite {b : BitVec 64}
    (h : (UnpackedFloat.unpack Format.binary64 b).isFinite = true) :
    Unpacked 971 (UnpackedFloat.unpack Format.binary64 b) := by
  have hones : @unpackExponent Format.binary64 b ≠ -1#11 := by
    intro hones
    unfold UnpackedFloat.unpack at h
    dsimp only at h
    rw [if_pos hones] at h
    split at h <;> cases h
  have hnat : (@unpackExponent Format.binary64 b).toNat ≠ 2047 := fun heq =>
    hones (BitVec.eq_of_toNat_eq heq)
  have hlt : (@unpackExponent Format.binary64 b).toNat < 2 ^ 11 := BitVec.isLt _
  exact (unpack_spec hones).1.mono (by omega)

theorem within_of_isFinite (h : x.isFinite = true) : Within 971 x := ⟨unpacked_of_isFinite h⟩

theorem Within.neg (h : Within top x) (hlow : -1074 ≤ top) (hhigh : top ≤ 971) : Within top (-x) :=
  ⟨unpacked_pack h.unpacked.neg hlow hhigh⟩

theorem log2_mul_lt {m₁ m₂ : Nat} (h₁ : m₁ < 2 ^ 53) (h₂ : m₂ < 2 ^ 53) : (m₁ * m₂).log2 < 106 := by
  by_cases hzero : m₁ * m₂ = 0
  · rw [hzero]
    decide
  · refine (Nat.log2_lt hzero).2 ?_
    calc m₁ * m₂ < 2 ^ 53 * 2 ^ 53 := Nat.mul_lt_mul'' h₁ h₂
      _ = 2 ^ 106 := by decide

theorem unpacked_mul {u v : UnpackedFloat} (hu : Unpacked a u) (hv : Unpacked b v)
    (hsum : a + b + 54 ≤ top) (hlow : -1073 ≤ top) : Unpacked top (UnpackedFloat.mul Format.binary64 u v) := by
  obtain ⟨s₁, rfl⟩ | ⟨s₁, m₁, e₁, hm₁, rfl, hlt₁, he₁⟩ := hu.cases
  · obtain ⟨s₂, rfl⟩ | ⟨s₂, m₂, e₂, hm₂, rfl, -, -⟩ := hv.cases
    · trivial
    · trivial
  · obtain ⟨s₂, rfl⟩ | ⟨s₂, m₂, e₂, hm₂, rfl, hlt₂, he₂⟩ := hv.cases
    · trivial
    · have hlog := log2_mul_lt hlt₁ hlt₂
      refine unpacked_round .exact (by omega) ?_ hlow
      unfold totalExponent
      omega

theorem Within.mul (hx : Within a x) (hy : Within b y) (hsum : a + b + 54 ≤ top) (hlow : -1073 ≤ top)
    (hhigh : top ≤ 971) : Within top (x * y) :=
  ⟨unpacked_pack (unpacked_mul hx.unpacked hy.unpacked hsum hlow) (by omega) hhigh⟩

/-- A product of finite numbers is finite or infinite. -/
theorem isFinite_mul (hx : x.isFinite = true) (hy : y.isFinite = true) (hinf : (x * y).isInf = false) :
    (x * y).isFinite = true :=
  isFinite_pack (unpacked_mul (within_of_isFinite hx).unpacked (within_of_isFinite hy).unpacked
    (Int.le_refl _) (by decide)).isFinite hinf

/-! ## Sums -/

theorem log2_shiftLeft {m : Nat} (hm : 0 < m) (k : Nat) : (m <<< k).log2 = m.log2 + k := by
  have hne : m <<< k ≠ 0 := by
    rw [Nat.shiftLeft_eq]
    exact Nat.mul_ne_zero (by omega) (Nat.ne_of_gt (Nat.two_pow_pos k))
  rw [Nat.shiftLeft_eq] at hne ⊢
  refine (Nat.log2_eq_iff hne).2 ⟨?_, ?_⟩
  · rw [Nat.pow_add]
    exact Nat.mul_le_mul_right _ (Nat.log2_self_le (by omega))
  · rw [Nat.add_right_comm, Nat.pow_add]
    exact Nat.mul_lt_mul_of_pos_right Nat.lt_log2_self (Nat.two_pow_pos k)

theorem unpacked_roundUp {s : Sign} {m : Nat} {e : Int} (hm : 0 < m) (htotal : totalExponent m e ≤ top)
    (hlow : -1073 ≤ top) : Unpacked top (UnpackedFloat.round Format.binary64 s m e) := by
  have hlog := log2_shiftLeft hm (e - Format.binary64.targetExponent (totalExponent m e)).toNat
  unfold UnpackedFloat.round decreaseExponent
  refine unpacked_round .exact ?_ ?_ hlow
  · unfold totalExponent at *
    omega
  · unfold totalExponent at *
    rw [hlog]
    omega

theorem unpacked_normalize {m : Int} {e : Int} {k : Nat} (hm : m.natAbs < 2 ^ k) (htotal : k + e ≤ top)
    (hlow : -1073 ≤ top) (zero : Sign) : Unpacked top (UnpackedFloat.normalize Format.binary64 m e zero) := by
  have hbits {n : Nat} (hpos : 0 < n) (hn : n < 2 ^ k) : totalExponent n e ≤ top := by
    have hlog := (Nat.log2_lt (by omega)).2 hn
    unfold totalExponent
    omega
  unfold UnpackedFloat.normalize
  cases hcompare : compare m 0 with
  | eq => trivial
  | lt =>
    have hneg := Int.compare_eq_lt.1 hcompare
    exact unpacked_roundUp (by omega) (hbits (by omega) (by omega)) hlow
  | gt =>
    have hpos := Int.compare_eq_gt.1 hcompare
    exact unpacked_roundUp (by omega) (hbits (by omega) (by omega)) hlow

theorem natAbs_apply (s : Sign) (m : Nat) : (s.apply m).natAbs = m := by
  cases s
  · exact Int.natAbs_neg m
  · rfl

theorem shiftLeft_lt {m k n : Nat} (hm : m < 2 ^ 53) (hk : k ≤ n) : m <<< k < 2 ^ (53 + n) := by
  rw [Nat.shiftLeft_eq]
  calc m * 2 ^ k < 2 ^ 53 * 2 ^ k := Nat.mul_lt_mul_of_pos_right hm (Nat.two_pow_pos k)
    _ = 2 ^ (53 + k) := (Nat.pow_add 2 53 k).symm
    _ ≤ 2 ^ (53 + n) := Nat.pow_le_pow_right (by decide) (by omega)

/-- Both mantissas are brought to the smaller power, and their sum has a bit more than the longer one. -/
theorem unpacked_add_finite {s₁ s₂ : Sign} {m₁ m₂ : Nat} {e₁ e₂ : Int} {hm₁ : 0 < m₁} {hm₂ : 0 < m₂}
    (hlt₁ : m₁ < 2 ^ 53) (hlt₂ : m₂ < 2 ^ 53) (he₁ : e₁ + 54 ≤ top) (he₂ : e₂ + 54 ≤ top)
    (hlow : -1073 ≤ top) :
    Unpacked top (UnpackedFloat.add Format.binary64 (.finite s₁ m₁ e₁ hm₁) (.finite s₂ m₂ e₂ hm₂)) := by
  have hwide₁ := shiftLeft_lt hlt₁ (Nat.le_max_left (e₁ - min e₁ e₂).toNat (e₂ - min e₁ e₂).toNat)
  have hwide₂ := shiftLeft_lt hlt₂ (Nat.le_max_right (e₁ - min e₁ e₂).toNat (e₂ - min e₁ e₂).toNat)
  have hsum := Int.natAbs_add_le (s₁.apply (m₁ <<< (e₁ - min e₁ e₂).toNat : Nat))
    (s₂.apply (m₂ <<< (e₂ - min e₁ e₂).toNat : Nat))
  rw [natAbs_apply, natAbs_apply] at hsum
  refine unpacked_normalize (k := 54 + max (e₁ - min e₁ e₂).toNat (e₂ - min e₁ e₂).toNat) ?_ ?_ hlow _
  · refine Nat.lt_of_le_of_lt hsum ?_
    rw [show 54 = 1 + 53 from rfl, Nat.add_assoc, Nat.pow_add]
    omega
  · omega

theorem unpacked_add {u v : UnpackedFloat} (hu : Unpacked a u) (hv : Unpacked b v) (ha : a + 54 ≤ top)
    (hb : b + 54 ≤ top) (hlow : -1073 ≤ top) : Unpacked top (UnpackedFloat.add Format.binary64 u v) := by
  obtain ⟨s₁, rfl⟩ | ⟨s₁, m₁, e₁, hm₁, rfl, hlt₁, he₁⟩ := hu.cases
  · obtain ⟨s₂, rfl⟩ | ⟨s₂, m₂, e₂, hm₂, rfl, -, -⟩ := hv.cases
    · cases s₁ <;> cases s₂ <;> trivial
    · exact hv.mono (by omega)
  · obtain ⟨s₂, rfl⟩ | ⟨s₂, m₂, e₂, hm₂, rfl, hlt₂, he₂⟩ := hv.cases
    · exact hu.mono (by omega)
    · exact unpacked_add_finite hlt₁ hlt₂ (by omega) (by omega) hlow

theorem Within.add (hx : Within a x) (hy : Within b y) (ha : a + 54 ≤ top) (hb : b + 54 ≤ top)
    (hlow : -1073 ≤ top) (hhigh : top ≤ 971) : Within top (x + y) :=
  ⟨unpacked_pack (unpacked_add hx.unpacked hy.unpacked ha hb hlow) (by omega) hhigh⟩

/-! ## Quotients -/

/-- A double of 53 bits that is at least `2 ^ 52` times two to the power of `bottom`. -/
structure AtLeast (bottom : Int) (x : Float) : Prop where
  large : Range.Large bottom x.toModel.unpack

instance (bottom : Int) (x : Float) : Decidable (AtLeast bottom x) :=
  decidable_of_iff (Range.Large bottom x.toModel.unpack) ⟨.mk, AtLeast.large⟩

theorem log2_div_le (m : Nat) {n : Nat} (hn : 0 < n) :
    (m / n).log2 = 0 ∨ (m / n).log2 + n.log2 ≤ m.log2 := by
  by_cases hzero : m / n = 0
  · exact .inl (by rw [hzero]; rfl)
  · refine .inr ?_
    have hm : m ≠ 0 := by
      rintro rfl
      exact hzero (Nat.zero_div n)
    refine (Nat.le_log2 hm).2 ?_
    rw [Nat.pow_add]
    calc 2 ^ (m / n).log2 * 2 ^ n.log2 ≤ m / n * n :=
          Nat.mul_le_mul (Nat.log2_self_le hzero) (Nat.log2_self_le (Nat.ne_of_gt hn))
      _ ≤ m := Nat.div_mul_le_self m n

theorem unpacked_div {u v : UnpackedFloat} (hu : Unpacked a u) (hv : Large (-52) v) (ha : a + 1 ≤ top)
    (hlow : -1073 ≤ top) : Unpacked top (UnpackedFloat.div Format.binary64 u v) := by
  obtain ⟨s₂, m₂, e₂, hm₂, rfl, hge₂, he₂⟩ := hv.exists_eq
  obtain ⟨s₁, rfl⟩ | ⟨s₁, m₁, e₁, hm₁, rfl, hlt₁, he₁⟩ := hu.cases
  · trivial
  · have hlog₁ := (Nat.log2_lt (Nat.ne_of_gt hm₁)).2 hlt₁
    have hlog₂ := (Nat.le_log2 (Nat.ne_of_gt hm₂)).2 hge₂
    unfold UnpackedFloat.div divCore
    dsimp only [targetExponent_eq]
    generalize ht : min (e₁ - e₂) (max (totalExponent m₁ e₁ - totalExponent m₂ e₂ - 53) (-1074)) = t
    have hshift := log2_shiftLeft hm₁ (e₁ - e₂ - t).toNat
    have hquotient := log2_div_le (m₁ <<< (e₁ - e₂ - t).toNat) hm₂
    unfold totalExponent at ht
    refine unpacked_round _ (by omega) ?_ hlow
    unfold totalExponent
    omega

theorem Within.div (hx : Within a x) (hy : AtLeast (-52) y) (ha : a + 1 ≤ top) (hlow : -1073 ≤ top)
    (hhigh : top ≤ 971) : Within top (x / y) :=
  ⟨unpacked_pack (unpacked_div hx.unpacked hy.large ha hlow) (by omega) hhigh⟩

/-! ## Natural numbers and powers of ten -/

theorem unpacked_ofNat {n k : Nat} (hn : n < 2 ^ k) (hk : k ≤ top) (hlow : 0 ≤ top) :
    Unpacked top (UnpackedFloat.ofNat Format.binary64 n) :=
  unpacked_normalize (show (n : Int).natAbs < 2 ^ k from hn) (by omega) (by omega) .positive

theorem within_toFloat (n : UInt64) : Within 64 n.toFloat :=
  ⟨unpacked_pack (unpacked_ofNat n.toNat_lt (Int.le_refl _) (by decide)) (by decide) (by decide)⟩

/-- The product that stands for a natural number times a power of ten has enough bits below the point. -/
theorem log2_decimal {n e : Nat} (hpos : 0 < n * 10 ^ e) :
    ((n <<< 53) * 10 ^ e).log2 = (n * 10 ^ e).log2 + 53 := by
  have hproduct : (n <<< 53) * 10 ^ e = (n * 10 ^ e) <<< 53 := by
    rw [Nat.shiftLeft_eq, Nat.shiftLeft_eq, Nat.mul_right_comm]
  rw [hproduct, log2_shiftLeft hpos]

theorem ofScientific_eq_round {n e : Nat} (hn : n ≠ 0) (he : e ≤ 2048) :
    UnpackedFloat.ofScientific Format.binary64 n e =
      roundWithAccuracy Format.binary64 .positive ((n <<< 53) * 10 ^ e) (-53 + 0) .exact := by
  have hsmall : ¬ (e : Int) > 2 ^ 11 := by omega
  have hbig : ¬ (e : Int) < -(2 ^ 11 + (n.log2 : Int)) := by omega
  unfold UnpackedFloat.ofScientific
  rw [dif_neg hn, if_neg hsmall, if_neg hbig, if_pos (Int.natCast_nonneg e)]
  rfl

theorem unpacked_ofScientific {n e k : Nat} (he : e ≤ 2048) (hbits : n * 10 ^ e < 2 ^ k) (hk : k ≤ top + 52)
    (hlow : 0 ≤ top) :
    Unpacked top (UnpackedFloat.ofScientific Format.binary64 n e) ∧
      (0 < n → Large (-52) (UnpackedFloat.ofScientific Format.binary64 n e)) := by
  by_cases hn : n = 0
  · unfold UnpackedFloat.ofScientific
    rw [dif_pos hn]
    exact ⟨trivial, fun hpos => absurd hn (Nat.ne_of_gt hpos)⟩
  · rw [ofScientific_eq_round hn he]
    have hpos : 0 < n * 10 ^ e := Nat.mul_pos (Nat.pos_of_ne_zero hn) (Nat.pow_pos (by decide))
    have hlog := log2_decimal hpos
    have hlt := (Nat.log2_lt (Nat.ne_of_gt hpos)).2 hbits
    have htotal : totalExponent ((n <<< 53) * 10 ^ e) (-53 + 0) = (n * 10 ^ e).log2 + 1 := by
      unfold totalExponent
      omega
    refine ⟨unpacked_round .exact (by omega) (by omega) (by omega), fun _ => ?_⟩
    exact (@round_large .positive ((n <<< 53) * 10 ^ e) (-53 + 0) .exact (by omega) (by omega)).mono
      (by omega)

theorem within_ofScientific {n k : Nat} (hn : n < 2 ^ k) (hk : 118 ≤ k) (hhigh : k ≤ 971) :
    Within k (Float.ofScientific n false 0) := by
  unfold Float.ofScientific
  split
  · have hone : Within 0 (getElem Float.exactlyRepresentablePowersOfTen 0 (by decide)) := by
      decide +kernel
    exact (within_toFloat _).mul hone (by omega) (by omega) (by omega)
  · have hbits : n * 10 ^ 0 < 2 ^ k := by rwa [Nat.pow_zero, Nat.mul_one]
    have hround := (@unpacked_ofScientific k n 0 k (by decide) hbits (by omega) (by omega)).1
    exact ⟨unpacked_pack hround (by omega) (by omega)⟩

/-- A power of ten that a double can hold is finite, and at least one. -/
theorem powerOfTen_large {e : Nat} (he : e ≤ 308) :
    Within 971 (Json.powerOfTen e) ∧ AtLeast (-52) (Json.powerOfTen e) := by
  by_cases hexact : e < 23
  · have hsmall : ∀ e : Fin 23, Within 971 (Json.powerOfTen e) ∧ AtLeast (-52) (Json.powerOfTen e) := by
      decide +kernel
    exact hsmall ⟨e, hexact⟩
  · by_cases hlast : e = 308
    · subst hlast
      decide +kernel
    · have hbits : 1 * 10 ^ e < 2 ^ 1020 := by
        rw [Nat.one_mul]
        exact Nat.lt_of_le_of_lt (Nat.pow_le_pow_right (by decide) (by omega : e ≤ 307)) (by decide +kernel)
      obtain ⟨hunpacked, hlarge⟩ := @unpacked_ofScientific 968 1 e 1020 (by omega) hbits (by decide) (by decide)
      unfold Json.powerOfTen Float.ofScientific
      rw [dif_neg (by omega)]
      exact ⟨⟨unpacked_pack (hunpacked.mono (by decide)) (by decide) (by decide)⟩,
        ⟨large_pack (hlarge (by decide)) hunpacked (by decide) (by decide)⟩⟩

end
end Fanout
