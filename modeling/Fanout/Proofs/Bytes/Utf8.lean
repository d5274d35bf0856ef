import Fanout.Bytes.Utf8

/-!
# Bytes are read back as text

* `next_encodeChar` : the bytes of a character are read as the character, whatever follows them;
* `eq_encodeChar_of_next` : and no other bytes are read as it;
* `decode_eq_ok_iff` : bytes are read as a text just if they are the bytes of the text;
* `le_of_mem_encodeChar` : no byte of a character beyond ASCII is a byte of ASCII.
-/

namespace Fanout.Utf8

theorem toNat_ofNat {n : Nat} (h : n < 256) : (UInt8.ofNat n).toNat = n := by
  rw [UInt8.toNat_ofNat', Nat.mod_eq_of_lt h]

/-! ## The bytes of one character -/

section
variable {c : Char}

theorem encodeChar_one (h : c.toNat < 0x80) : encodeChar c = [UInt8.ofNat c.toNat] := if_pos h

theorem encodeChar_two (hlow : 0x80 ≤ c.toNat) (hhigh : c.toNat < 0x800) :
    encodeChar c = [UInt8.ofNat (0xC0 + c.toNat / 64), UInt8.ofNat (0x80 + c.toNat % 64)] := by
  unfold encodeChar
  rw [if_neg (by omega), if_pos hhigh]
  simp

theorem encodeChar_three (hlow : 0x800 ≤ c.toNat) (hhigh : c.toNat < 0x10000) :
    encodeChar c =
      [UInt8.ofNat (0xE0 + c.toNat / 4096), UInt8.ofNat (0x80 + c.toNat / 64 % 64),
        UInt8.ofNat (0x80 + c.toNat % 64)] := by
  unfold encodeChar
  rw [if_neg (by omega), if_neg (by omega), if_pos hhigh]
  simp

theorem encodeChar_four (hlow : 0x10000 ≤ c.toNat) :
    encodeChar c =
      [UInt8.ofNat (0xF0 + c.toNat / 262144), UInt8.ofNat (0x80 + c.toNat / 4096 % 64),
        UInt8.ofNat (0x80 + c.toNat / 64 % 64), UInt8.ofNat (0x80 + c.toNat % 64)] := by
  unfold encodeChar
  rw [if_neg (by omega), if_neg (by omega), if_neg (by omega)]
  simp

end

/-! ## The first byte -/

theorem second?_two : ∀ k < 30, second? (UInt8.ofNat (0xC2 + k)) = some (0x80, 0xBF, 1) := by decide

theorem second?_three : ∀ k < 16, second? (UInt8.ofNat (0xE0 + k)) =
    some (if k = 0 then 0xA0 else 0x80, if k = 13 then 0x9F else 0xBF, 2) := by decide

theorem second?_four : ∀ k < 5, second? (UInt8.ofNat (0xF0 + k)) =
    some (if k = 0 then 0x90 else 0x80, if k = 4 then 0x8F else 0xBF, 3) := by decide

/-! ## Reading -/

theorem readTail_cons (seen : Nat) {low high : UInt8} (n count : Nat) {d : Nat} (hd : d < 64)
    (hlow : low.toNat ≤ 0x80 + d) (hhigh : 0x80 + d ≤ high.toNat) (rest : List UInt8) :
    readTail seen low high n (count + 1) (UInt8.ofNat (0x80 + d) :: rest) =
      readTail (seen + 1) 0x80 0xBF (n * 64 + d) count rest := by
  have hbyte : (UInt8.ofNat (0x80 + d)).toNat = 0x80 + d := toNat_ofNat (by omega)
  have hwithin : (low ≤ UInt8.ofNat (0x80 + d) && UInt8.ofNat (0x80 + d) ≤ high) = true := by
    simp only [Bool.and_eq_true, decide_eq_true_eq, UInt8.le_iff_toNat_le, hbyte]
    exact ⟨hlow, hhigh⟩
  rw [readTail, if_pos hwithin, hbyte]
  congr 1
  omega

/-- A tail byte fits wherever no narrower bounds are set. -/
theorem readTail_tail (seen n count : Nat) {d : Nat} (hd : d < 64) (rest : List UInt8) :
    readTail seen 0x80 0xBF n (count + 1) (UInt8.ofNat (0x80 + d) :: rest) =
      readTail (seen + 1) 0x80 0xBF (n * 64 + d) count rest := by
  refine readTail_cons seen n count hd ?_ ?_ rest
  · show 0x80 ≤ 0x80 + d
    omega
  · show 0x80 + d ≤ 0xBF
    omega

theorem next_lead {b low high : UInt8} {count : Nat} (hb : 0x80 ≤ b.toNat)
    (hsecond : second? b = some (low, high, count)) {bs rest : List UInt8} {c : Char}
    (htail : readTail 1 low high (leadBits b count) count bs = .ok (c.toNat, rest)) :
    next b bs = .ok (c, rest) := by
  have hlow : ¬b < 0x80 := by
    rw [UInt8.lt_iff_toNat_lt]
    exact Nat.not_lt.2 hb
  rw [next, if_neg hlow, hsecond]
  dsimp only
  rw [htail]
  dsimp only [Except.map]
  rw [Char.ofNat_toNat]

/-- The number of a character from its bits in two, three and four bytes. -/
theorem bits_two (n : Nat) : n / 64 * 64 + n % 64 = n := by omega

theorem bits_three (n : Nat) : (n / 4096 * 64 + n / 64 % 64) * 64 + n % 64 = n := by omega

theorem bits_four (n : Nat) : ((n / 262144 * 64 + n / 4096 % 64) * 64 + n / 64 % 64) * 64 + n % 64 = n := by
  omega

theorem next_encodeChar (c : Char) :
    ∃ b bs, encodeChar c = b :: bs ∧ ∀ rest, next b (bs ++ rest) = .ok (c, rest) := by
  have hvalid : c.toNat < 0xD800 ∨ 0xDFFF < c.toNat ∧ c.toNat < 0x110000 := c.valid
  rcases Nat.lt_or_ge c.toNat 0x80 with h1 | h1
  · refine ⟨_, _, encodeChar_one h1, fun rest => ?_⟩
    have hbyte : (UInt8.ofNat c.toNat).toNat = c.toNat := toNat_ofNat (by omega)
    have hlow : UInt8.ofNat c.toNat < 0x80 := by
      rw [UInt8.lt_iff_toNat_lt, hbyte]
      exact h1
    rw [next, if_pos hlow, hbyte, Char.ofNat_toNat]
    rfl
  rcases Nat.lt_or_ge c.toNat 0x800 with h2 | h2
  · refine ⟨_, _, encodeChar_two h1 h2, fun rest => ?_⟩
    have hbyte : (UInt8.ofNat (0xC0 + c.toNat / 64)).toNat = 0xC0 + c.toNat / 64 := toNat_ofNat (by omega)
    have hsecond : second? (UInt8.ofNat (0xC0 + c.toNat / 64)) = some (0x80, 0xBF, 1) := by
      have h := second?_two (c.toNat / 64 - 2) (by omega)
      rwa [show 0xC2 + (c.toNat / 64 - 2) = 0xC0 + c.toNat / 64 by omega] at h
    have hlead : leadBits (UInt8.ofNat (0xC0 + c.toNat / 64)) 1 = c.toNat / 64 := by
      rw [leadBits, if_pos (by rfl), hbyte]
      omega
    refine next_lead (by omega) hsecond ?_
    rw [hlead, List.singleton_append, readTail_tail _ _ _ (by omega), bits_two, readTail]
  rcases Nat.lt_or_ge c.toNat 0x10000 with h3 | h3
  · refine ⟨_, _, encodeChar_three h2 h3, fun rest => ?_⟩
    have hbyte : (UInt8.ofNat (0xE0 + c.toNat / 4096)).toNat = 0xE0 + c.toNat / 4096 :=
      toNat_ofNat (by omega)
    have hlead : leadBits (UInt8.ofNat (0xE0 + c.toNat / 4096)) 2 = c.toNat / 4096 := by
      rw [leadBits, if_neg (by decide), if_pos (by rfl), hbyte]
      omega
    -- Longer spellings and surrogates are what the second byte is bounded for.
    have hlow : (if c.toNat / 4096 = 0 then 0xA0 else 0x80 : UInt8).toNat ≤ 0x80 + c.toNat / 64 % 64 := by
      split
      · show 0xA0 ≤ _
        omega
      · exact Nat.le_add_right 0x80 _
    have hhigh : 0x80 + c.toNat / 64 % 64 ≤ (if c.toNat / 4096 = 13 then 0x9F else 0xBF : UInt8).toNat := by
      split
      · show _ ≤ 0x9F
        omega
      · show _ ≤ 0xBF
        omega
    refine next_lead (by omega) (second?_three _ (by omega)) ?_
    rw [hlead, List.cons_append, List.singleton_append, readTail_cons _ _ _ (by omega) hlow hhigh,
      readTail_tail _ _ _ (by omega), bits_three, readTail]
  · refine ⟨_, _, encodeChar_four h3, fun rest => ?_⟩
    have hbyte : (UInt8.ofNat (0xF0 + c.toNat / 262144)).toNat = 0xF0 + c.toNat / 262144 :=
      toNat_ofNat (by omega)
    have hlead : leadBits (UInt8.ofNat (0xF0 + c.toNat / 262144)) 3 = c.toNat / 262144 := by
      rw [leadBits, if_neg (by decide), if_neg (by decide), hbyte]
      omega
    have hlow : (if c.toNat / 262144 = 0 then 0x90 else 0x80 : UInt8).toNat ≤ 0x80 + c.toNat / 4096 % 64 := by
      split
      · show 0x90 ≤ _
        omega
      · exact Nat.le_add_right 0x80 _
    have hhigh : 0x80 + c.toNat / 4096 % 64 ≤ (if c.toNat / 262144 = 4 then 0x8F else 0xBF : UInt8).toNat := by
      split
      · show _ ≤ 0x8F
        omega
      · show _ ≤ 0xBF
        omega
    refine next_lead (by omega) (second?_four _ (by omega)) ?_
    rw [hlead, List.cons_append, List.cons_append, List.singleton_append,
      readTail_cons _ _ _ (by omega) hlow hhigh, readTail_tail _ _ _ (by omega),
      readTail_tail _ _ _ (by omega), bits_four, readTail]

/-! ## Reading gives back what was written -/

theorem char_toNat_ofNat {n : Nat} (h : n.isValidChar) : (Char.ofNat n).toNat = n := by
  rw [Char.ofNat, dif_pos h]
  rfl

theorem encodeChar_bits_two {a d : Nat} (ha : 2 ≤ a) (ha' : a < 32) (hd : d < 64) :
    encodeChar (Char.ofNat (a * 64 + d)) = [UInt8.ofNat (0xC0 + a), UInt8.ofNat (0x80 + d)] := by
  have hc := char_toNat_ofNat (n := a * 64 + d) (.inl (by omega))
  rw [encodeChar_two (by omega) (by omega), hc, show (a * 64 + d) / 64 = a by omega,
    show (a * 64 + d) % 64 = d by omega]

/-- The second byte's bounds keep out characters that fewer bytes would do for, and halves of surrogate pairs. -/
theorem encodeChar_bits_three {a d e : Nat} (ha : a < 16) (hd : d < 64) (he : e < 64) (hlow : a = 0 → 0x20 ≤ d)
    (hsurrogate : a = 13 → d < 0x20) :
    encodeChar (Char.ofNat ((a * 64 + d) * 64 + e)) =
      [UInt8.ofNat (0xE0 + a), UInt8.ofNat (0x80 + d), UInt8.ofNat (0x80 + e)] := by
  have hc := char_toNat_ofNat (n := (a * 64 + d) * 64 + e) (by unfold Nat.isValidChar; omega)
  rw [encodeChar_three (by omega) (by omega), hc, show ((a * 64 + d) * 64 + e) / 4096 = a by omega,
    show ((a * 64 + d) * 64 + e) / 64 % 64 = d by omega, show ((a * 64 + d) * 64 + e) % 64 = e by omega]

theorem encodeChar_bits_four {a d e f : Nat} (ha : a < 5) (hd : d < 64) (he : e < 64) (hf : f < 64)
    (hlow : a = 0 → 0x10 ≤ d) (hhigh : a = 4 → d < 0x10) :
    encodeChar (Char.ofNat (((a * 64 + d) * 64 + e) * 64 + f)) =
      [UInt8.ofNat (0xF0 + a), UInt8.ofNat (0x80 + d), UInt8.ofNat (0x80 + e), UInt8.ofNat (0x80 + f)] := by
  have hc := char_toNat_ofNat (n := ((a * 64 + d) * 64 + e) * 64 + f) (by unfold Nat.isValidChar; omega)
  rw [encodeChar_four (by omega), hc, show (((a * 64 + d) * 64 + e) * 64 + f) / 262144 = a by omega,
    show (((a * 64 + d) * 64 + e) * 64 + f) / 4096 % 64 = d by omega,
    show (((a * 64 + d) * 64 + e) * 64 + f) / 64 % 64 = e by omega,
    show (((a * 64 + d) * 64 + e) * 64 + f) % 64 = f by omega]

theorem ofNat_eq {b : UInt8} {n : Nat} (h : b.toNat = n) : UInt8.ofNat n = b := by
  rw [← h, UInt8.ofNat_toNat]

/-- A byte between bounds that are tail bytes is a tail byte. -/
theorem exists_tail {seen n count : Nat} {low high : UInt8} {bs : List UInt8} {found : Nat × List UInt8}
    (hlow : 0x80 ≤ low.toNat) (hhigh : high.toNat ≤ 0xBF)
    (h : readTail seen low high n (count + 1) bs = .ok found) :
    ∃ d rest, d < 64 ∧ low.toNat ≤ 0x80 + d ∧ 0x80 + d ≤ high.toNat ∧ bs = UInt8.ofNat (0x80 + d) :: rest ∧
      readTail (seen + 1) 0x80 0xBF (n * 64 + d) count rest = .ok found := by
  cases bs with
  | nil => cases h
  | cons b bs =>
    rw [readTail] at h
    split at h
    · next hb =>
      simp only [Bool.and_eq_true, decide_eq_true_eq, UInt8.le_iff_toNat_le] at hb
      refine ⟨b.toNat - 0x80, bs, by omega, by omega, by omega, ?_, ?_⟩
      · rw [ofNat_eq (b := b) (by omega)]
      · rwa [show b.toNat - 0x80 = b.toNat % 64 by omega]
    · cases h

theorem second?_cases {b low high : UInt8} {count : Nat} (h : second? b = some (low, high, count)) :
    (∃ k < 30, b = UInt8.ofNat (0xC2 + k)) ∨ (∃ k < 16, b = UInt8.ofNat (0xE0 + k)) ∨
      ∃ k < 5, b = UInt8.ofNat (0xF0 + k) := by
  have hall : ∀ n < 256, (second? (UInt8.ofNat n)).isSome →
      (0xC2 ≤ n ∧ n < 0xC2 + 30) ∨ (0xE0 ≤ n ∧ n < 0xE0 + 16) ∨ (0xF0 ≤ n ∧ n < 0xF0 + 5) := by
    decide +kernel
  have hb := hall b.toNat b.toNat_lt
  rw [UInt8.ofNat_toNat, h] at hb
  rcases hb rfl with hb | hb | hb
  · exact .inl ⟨b.toNat - 0xC2, by omega, (ofNat_eq (by omega)).symm⟩
  · exact .inr (.inl ⟨b.toNat - 0xE0, by omega, (ofNat_eq (by omega)).symm⟩)
  · exact .inr (.inr ⟨b.toNat - 0xF0, by omega, (ofNat_eq (by omega)).symm⟩)

theorem leadBits_ofNat {n : Nat} (h : n < 256) (count : Nat) :
    leadBits (UInt8.ofNat n) count = if count = 1 then n % 32 else if count = 2 then n % 16 else n % 8 := by
  rw [leadBits, toNat_ofNat h]
  simp

/-- Behind a first byte of several stand the other bytes of the character that is read. -/
theorem eq_encodeChar_of_lead {b low high : UInt8} {count n : Nat} {bs rest : List UInt8}
    (hsecond : second? b = some (low, high, count))
    (htail : readTail 1 low high (leadBits b count) count bs = .ok (n, rest)) :
    b :: bs = encodeChar (Char.ofNat n) ++ rest := by
  rcases second?_cases hsecond with ⟨k, hk, rfl⟩ | ⟨k, hk, rfl⟩ | ⟨k, hk, rfl⟩
  · rw [second?_two k hk] at hsecond
    cases hsecond
    obtain ⟨d, bs, hd, -, -, rfl, hend⟩ := exists_tail (by decide) (by decide) htail
    cases hend
    rw [leadBits_ofNat (by omega), if_pos rfl, show (0xC2 + k) % 32 = 2 + k by omega,
      encodeChar_bits_two (by omega) (by omega) hd, show 0xC0 + (2 + k) = 0xC2 + k by omega]
    rfl
  · rw [second?_three k hk] at hsecond
    cases hsecond
    obtain ⟨d, bs, hd, hlow, hhigh, rfl, hmore⟩ := exists_tail (by split <;> decide) (by split <;> decide) htail
    obtain ⟨e, bs, he, -, -, rfl, hend⟩ := exists_tail (by decide) (by decide) hmore
    cases hend
    rw [leadBits_ofNat (by omega), if_neg (by decide), if_pos rfl, show (0xE0 + k) % 16 = k by omega,
      encodeChar_bits_three hk hd he]
    · rfl
    · rintro rfl
      exact Nat.le_of_add_le_add_left (a := 0x80) hlow
    · rintro rfl
      exact Nat.lt_succ_of_le (Nat.le_of_add_le_add_left (a := 0x80) hhigh)
  · rw [second?_four k hk] at hsecond
    cases hsecond
    obtain ⟨d, bs, hd, hlow, hhigh, rfl, hmore⟩ := exists_tail (by split <;> decide) (by split <;> decide) htail
    obtain ⟨e, bs, he, -, -, rfl, hmore'⟩ := exists_tail (by decide) (by decide) hmore
    obtain ⟨f, bs, hf, -, -, rfl, hend⟩ := exists_tail (by decide) (by decide) hmore'
    cases hend
    rw [leadBits_ofNat (by omega), if_neg (by decide), if_neg (by decide), show (0xF0 + k) % 8 = k by omega,
      encodeChar_bits_four hk hd he hf]
    · rfl
    · rintro rfl
      exact Nat.le_of_add_le_add_left (a := 0x80) hlow
    · rintro rfl
      exact Nat.lt_succ_of_le (Nat.le_of_add_le_add_left (a := 0x80) hhigh)

/-- A character is read from its own bytes and from no others. -/
theorem eq_encodeChar_of_next {b : UInt8} {bs rest : List UInt8} {c : Char} (h : next b bs = .ok (c, rest)) :
    b :: bs = encodeChar c ++ rest := by
  unfold next at h
  split at h
  · next hb =>
    cases h
    have hb : b.toNat < 0x80 := UInt8.lt_iff_toNat_lt.1 hb
    have hc : (Char.ofNat b.toNat).toNat = b.toNat := char_toNat_ofNat (.inl (by omega))
    rw [encodeChar_one (by omega), hc, UInt8.ofNat_toNat, List.singleton_append]
  · split at h
    · cases h
    · next low high count hsecond =>
      cases htail : readTail 1 low high (leadBits b count) count bs with
      | error length =>
        rw [htail] at h
        cases h
      | ok found =>
        rw [htail] at h
        cases h
        exact eq_encodeChar_of_lead hsecond htail

/-! ## Texts -/

theorem decodeWith_encode (cs : List Char) {fuel : Nat} (hfuel : (encode cs).length ≤ fuel) (index : Nat)
    (out : List Char) : decodeWith fuel index out (encode cs) = .ok (out.reverse ++ cs) := by
  induction cs generalizing fuel index out with
  | nil => cases fuel <;> simp [encode, decodeWith]
  | cons c cs ih =>
    obtain ⟨b, bs, hbytes, hnext⟩ := next_encodeChar c
    have hcons : encode (c :: cs) = b :: (bs ++ encode cs) := by
      rw [encode, List.flatMap_cons, hbytes, List.cons_append]
      rfl
    rw [hcons, List.length_cons, List.length_append] at hfuel
    obtain ⟨fuel, rfl⟩ : ∃ n, fuel = n + 1 := ⟨fuel - 1, by omega⟩
    rw [hcons, decodeWith, hnext]
    dsimp only
    rw [ih (by omega), List.reverse_cons, List.append_assoc, List.singleton_append]

/-- The bytes of a text are read as the text. -/
theorem decode_encode (cs : List Char) : decode (encode cs) = .ok cs :=
  decodeWith_encode cs (Nat.le_refl _) 0 []

theorem decodeWith_eq_ok {fuel index : Nat} {out cs : List Char} {bytes : List UInt8} (hfuel : bytes.length ≤ fuel)
    (h : decodeWith fuel index out bytes = .ok cs) : ∃ more, cs = out.reverse ++ more ∧ bytes = encode more := by
  induction fuel generalizing index out bytes with
  | zero =>
    obtain rfl : bytes = [] := List.eq_nil_of_length_eq_zero (by omega)
    cases h
    exact ⟨[], by simp, rfl⟩
  | succ fuel ih =>
    cases bytes with
    | nil =>
      cases h
      exact ⟨[], by simp, rfl⟩
    | cons b bs =>
      rw [decodeWith] at h
      split at h
      · next c rest hnext =>
        have hbytes := eq_encodeChar_of_next hnext
        obtain ⟨first, tail, hc, -⟩ := next_encodeChar c
        have hlength := congrArg List.length hbytes
        rw [hc, List.length_append, List.length_cons, List.length_cons] at hlength
        rw [List.length_cons] at hfuel
        obtain ⟨more, rfl, rfl⟩ := ih (by omega) h
        refine ⟨c :: more, by simp, ?_⟩
        rw [hbytes]
        rfl
      · cases h

/-- Bytes are read as a text just if they are the bytes of the text. -/
theorem decode_eq_ok_iff {bytes : List UInt8} {cs : List Char} : decode bytes = .ok cs ↔ bytes = encode cs := by
  constructor
  · intro h
    obtain ⟨more, rfl, rfl⟩ := decodeWith_eq_ok (Nat.le_refl _) h
    rfl
  · rintro rfl
    exact decode_encode cs

/-- No byte of a character beyond ASCII is a byte of ASCII. -/
theorem le_of_mem_encodeChar {c : Char} (h : 0x80 ≤ c.toNat) {b : UInt8} (hb : b ∈ encodeChar c) :
    0x80 ≤ b.toNat := by
  have hvalid : c.toNat < 0xD800 ∨ 0xDFFF < c.toNat ∧ c.toNat < 0x110000 := c.valid
  have hbyte {k : Nat} (hlow : 0x80 ≤ k) (hhigh : k < 256) (hk : b = UInt8.ofNat k) : 0x80 ≤ b.toNat := by
    rw [hk, toNat_ofNat hhigh]
    exact hlow
  rcases Nat.lt_or_ge c.toNat 0x800 with h2 | h2
  · rw [encodeChar_two h h2] at hb
    simp only [List.mem_cons, List.not_mem_nil, or_false] at hb
    rcases hb with hb | hb
    all_goals exact hbyte (by omega) (by omega) hb
  rcases Nat.lt_or_ge c.toNat 0x10000 with h3 | h3
  · rw [encodeChar_three h2 h3] at hb
    simp only [List.mem_cons, List.not_mem_nil, or_false] at hb
    rcases hb with hb | hb | hb
    all_goals exact hbyte (by omega) (by omega) hb
  · rw [encodeChar_four h3] at hb
    simp only [List.mem_cons, List.not_mem_nil, or_false] at hb
    rcases hb with hb | hb | hb | hb
    all_goals exact hbyte (by omega) (by omega) hb

end Fanout.Utf8
