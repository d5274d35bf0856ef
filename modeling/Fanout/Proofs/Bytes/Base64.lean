import Fanout.Bytes.Base64
import Fanout.Proofs.Fallible

/-!
# Base64 is read back

* `encode_one`, `encode_two`, `encode_three` : a group of bytes is written as the symbols of its six-bit values;
* `quad_eq_ok_iff` : four symbols are read as three bytes just if they are what is written for them;
* `readEnding_eq_ok`, `eq_encode_of_closeEnding` : a last group that is read is written so, its padding and the bits
  that no byte needs included;
* `decode_eq_ok_iff` : symbols are read as bytes just if they are what is written for the bytes.
-/

namespace Fanout.Base64

/-! ## Symbols -/

theorem value?_symbol {n : Nat} (h : n < 64) : value? (symbol n) = some n := by
  have hall : ∀ k < 64, value? (symbol k) = some k := by decide
  exact hall n h

theorem symbol_of_value? {b : UInt8} {v : Nat} (h : value? b = some v) : v < 64 ∧ symbol v = b := by
  have hall : ∀ k < 256, ∀ v ∈ value? (UInt8.ofNat k), v < 64 ∧ symbol v = UInt8.ofNat k := by
    decide +kernel
  have hb := hall b.toNat b.toNat_lt
  rw [UInt8.ofNat_toNat] at hb
  exact hb v h

theorem symbol_ne_pad {n : Nat} (h : n < 64) : symbol n ≠ pad := by
  intro heq
  have hvalue := value?_symbol h
  rw [heq] at hvalue
  cases hvalue

/-! ## Groups of symbols -/

section
variable {a b c : UInt8} {w x y z : Nat}

theorem encode_one (hx : x < 64) (h : a.toNat * 16 = w * 64 + x) :
    encode [a] = [symbol w, symbol x, pad, pad] := by
  have ha := a.toNat_lt
  simp only [encode]
  rw [show a.toNat / 4 = w by omega, show a.toNat % 4 * 16 = x by omega]

theorem encode_two (hx : x < 64) (hy : y < 64)
    (h : (a.toNat * 256 + b.toNat) * 4 = (w * 64 + x) * 64 + y) :
    encode [a, b] = [symbol w, symbol x, symbol y, pad] := by
  have ha := a.toNat_lt
  have hb := b.toNat_lt
  simp only [encode]
  rw [show (a.toNat * 256 + b.toNat) / 1024 = w by omega, show (a.toNat * 256 + b.toNat) / 16 % 64 = x by omega,
    show (a.toNat * 256 + b.toNat) % 16 * 4 = y by omega]

theorem encode_three (hx : x < 64) (hy : y < 64) (hz : z < 64)
    (h : a.toNat * 65536 + b.toNat * 256 + c.toNat = ((w * 64 + x) * 64 + y) * 64 + z) (rest : List UInt8) :
    encode (a :: b :: c :: rest) = [symbol w, symbol x, symbol y, symbol z] ++ encode rest := by
  have ha := a.toNat_lt
  have hb := b.toNat_lt
  have hc := c.toNat_lt
  simp only [encode, h]
  rw [show (((w * 64 + x) * 64 + y) * 64 + z) / 262144 = w by omega,
    show (((w * 64 + x) * 64 + y) * 64 + z) / 4096 % 64 = x by omega,
    show (((w * 64 + x) * 64 + y) * 64 + z) / 64 % 64 = y by omega,
    show (((w * 64 + x) * 64 + y) * 64 + z) % 64 = z by omega]
  rfl

end

/-! ## Values of a group -/

theorem exists_one (a : UInt8) : ∃ w x, w < 64 ∧ x < 64 ∧ a.toNat * 16 = w * 64 + x := by
  have ha := a.toNat_lt
  refine ⟨a.toNat / 4, a.toNat % 4 * 16, ?_, ?_, ?_⟩ <;> omega

theorem exists_two (a b : UInt8) :
    ∃ w x y, w < 64 ∧ x < 64 ∧ y < 64 ∧ (a.toNat * 256 + b.toNat) * 4 = (w * 64 + x) * 64 + y := by
  have ha := a.toNat_lt
  have hb := b.toNat_lt
  obtain ⟨n, hn⟩ : ∃ n, n = a.toNat * 256 + b.toNat := ⟨_, rfl⟩
  refine ⟨n / 1024, n / 16 % 64, n % 16 * 4, ?_, ?_, ?_, ?_⟩ <;> omega

theorem exists_three (a b c : UInt8) :
    ∃ w x y z, w < 64 ∧ x < 64 ∧ y < 64 ∧ z < 64 ∧
      a.toNat * 65536 + b.toNat * 256 + c.toNat = ((w * 64 + x) * 64 + y) * 64 + z := by
  have ha := a.toNat_lt
  have hb := b.toNat_lt
  have hc := c.toNat_lt
  obtain ⟨n, hn⟩ : ∃ n, n = a.toNat * 65536 + b.toNat * 256 + c.toNat := ⟨_, rfl⟩
  refine ⟨n / 262144, n / 4096 % 64, n / 64 % 64, n % 64, ?_, ?_, ?_, ?_, ?_⟩ <;> omega

/-- Three bytes from the number that they make. -/
theorem bytes_of_eq {n : Nat} {x y z : UInt8} (h : n = x.toNat * 65536 + y.toNat * 256 + z.toNat) :
    [UInt8.ofNat (n / 65536), UInt8.ofNat (n / 256 % 256), UInt8.ofNat (n % 256)] = [x, y, z] := by
  have hy := y.toNat_lt
  have hz := z.toNat_lt
  rw [show n / 65536 = x.toNat by omega, show n / 256 % 256 = y.toNat by omega, show n % 256 = z.toNat by omega,
    UInt8.ofNat_toNat, UInt8.ofNat_toNat, UInt8.ofNat_toNat]

theorem quad_eq_ok_iff {offset : Nat} {a b c d : UInt8} {bytes : List UInt8} :
    quad offset a b c d = .ok bytes ↔ ∃ x y z, bytes = [x, y, z] ∧ [a, b, c, d] = encode [x, y, z] := by
  constructor
  · intro h
    unfold quad at h
    split at h
    · cases h
    · cases h
    · cases h
    · cases h
    · next w x y z ha hb hc hd =>
      obtain ⟨hw, rfl⟩ := symbol_of_value? ha
      obtain ⟨hx, rfl⟩ := symbol_of_value? hb
      obtain ⟨hy, rfl⟩ := symbol_of_value? hc
      obtain ⟨hz, rfl⟩ := symbol_of_value? hd
      cases h
      refine ⟨_, _, _, rfl, ?_⟩
      rw [encode_three hx hy hz]
      · rfl
      · simp only [UInt8.toNat_ofNat']
        omega
  · rintro ⟨a', b', c', rfl, h⟩
    obtain ⟨w, x, y, z, hw, hx, hy, hz, hn⟩ := exists_three a' b' c'
    rw [encode_three hx hy hz hn] at h
    cases h
    simp only [quad, value?_symbol hw, value?_symbol hx, value?_symbol hy, value?_symbol hz]
    rw [bytes_of_eq hn.symm]

/-! ## The last group -/

/-- The last group is symbols and then padding. -/
theorem readEnding_eq_ok {offset i : Nat} {e e' : Ending} {last : List UInt8}
    (h : readEnding offset i e last = .ok e') :
    ∃ values p, last = values.map symbol ++ List.replicate p pad ∧ (∀ v ∈ values, v < 64) ∧
      (0 < e.padding → values = []) ∧ e'.values = e.values ++ values ∧ e'.padding = e.padding + p := by
  induction last generalizing i e with
  | nil =>
    cases h
    exact ⟨[], 0, by simp⟩
  | cons b bs ih =>
    rw [readEnding] at h
    split at h
    · next hpad =>
      split at h
      · cases h
      · obtain ⟨values, p, hbs, -, hnil, hvalues, hpadding⟩ := ih h
        obtain rfl := hnil (Nat.succ_pos _)
        refine ⟨[], p + 1, ?_, nofun, fun _ => rfl, hvalues, ?_⟩
        · rw [hbs, eq_of_beq hpad, List.replicate_succ]
          rfl
        · exact hpadding.trans (Nat.add_right_comm e.padding 1 p)
    · split at h
      · cases h
      · next hnone =>
        split at h
        · cases h
        · next v hv =>
          obtain ⟨hlt, rfl⟩ := symbol_of_value? hv
          obtain ⟨values, p, rfl, hbound, -, hvalues, hpadding⟩ := ih h
          refine ⟨v :: values, p, rfl, ?_, fun hpos => absurd hpos hnone, ?_, hpadding⟩
          · exact List.forall_mem_cons.2 ⟨hlt, hbound⟩
          · rw [hvalues, List.append_assoc]
            rfl

theorem closeEnding_one (offset first : Nat) (last : UInt8) (w x : Nat) :
    closeEnding offset ⟨[w, x], last, 2, first⟩ =
      if x % 16 = 0 then .ok [UInt8.ofNat ((w * 64 + x) / 16)] else .error (.lastSymbol last (offset + 1)) := by
  have hclose : closeEnding offset ⟨[w, x], last, 2, first⟩ =
      if (w * 64 + x) * 64 * 64 % 65536 = 0 then .ok [UInt8.ofNat ((w * 64 + x) * 64 * 64 / 65536)]
      else .error (.lastSymbol last (offset + 1)) := by
    simp [closeEnding]
  have hbits : (w * 64 + x) * 64 * 64 % 65536 = 0 ↔ x % 16 = 0 := by omega
  rw [hclose, show (w * 64 + x) * 64 * 64 / 65536 = (w * 64 + x) / 16 by omega]
  simp only [hbits]

theorem closeEnding_two (offset first : Nat) (last : UInt8) (w x y : Nat) :
    closeEnding offset ⟨[w, x, y], last, 1, first⟩ =
      if y % 4 = 0 then
        .ok [UInt8.ofNat (((w * 64 + x) * 64 + y) / 1024), UInt8.ofNat (((w * 64 + x) * 64 + y) / 4 % 256)]
      else .error (.lastSymbol last (offset + 2)) := by
  have hclose : closeEnding offset ⟨[w, x, y], last, 1, first⟩ =
      if ((w * 64 + x) * 64 + y) * 64 % 256 = 0 then
        .ok [UInt8.ofNat (((w * 64 + x) * 64 + y) * 64 / 65536),
          UInt8.ofNat (((w * 64 + x) * 64 + y) * 64 / 256 % 256)]
      else .error (.lastSymbol last (offset + 2)) := by
    simp [closeEnding]
  have hbits : ((w * 64 + x) * 64 + y) * 64 % 256 = 0 ↔ y % 4 = 0 := by omega
  rw [hclose, show ((w * 64 + x) * 64 + y) * 64 / 65536 = ((w * 64 + x) * 64 + y) / 1024 by omega,
    show ((w * 64 + x) * 64 + y) * 64 / 256 = ((w * 64 + x) * 64 + y) / 4 by omega]
  simp only [hbits]

theorem closeEnding_three (offset first : Nat) (last : UInt8) (w x y z : Nat) :
    closeEnding offset ⟨[w, x, y, z], last, 0, first⟩ =
      .ok [UInt8.ofNat ((((w * 64 + x) * 64 + y) * 64 + z) / 65536),
        UInt8.ofNat ((((w * 64 + x) * 64 + y) * 64 + z) / 256 % 256),
        UInt8.ofNat ((((w * 64 + x) * 64 + y) * 64 + z) % 256)] := by
  simp [closeEnding, Nat.mod_one]

/-- The symbols and the padding of a last group that can be closed. -/
theorem eq_encode_of_closeEnding {offset : Nat} {e : Ending} {bytes : List UInt8} (hbound : ∀ v ∈ e.values, v < 64)
    (hlength : e.values.length + e.padding ≤ 4) (h : closeEnding offset e = .ok bytes) :
    e.values.map symbol ++ List.replicate e.padding pad = encode bytes := by
  obtain ⟨values, last, p, first⟩ := e
  dsimp only at hbound hlength ⊢
  have hcount : 2 ≤ values.length ∧ values.length + p = 4 := by
    simp only [closeEnding] at h
    split at h
    · cases h
    · split at h
      · cases h
      · next hp =>
        simp only [bne_iff_ne, ne_eq, Decidable.not_not] at hp
        omega
  match values, hcount with
  | [w, x], ⟨_, hp⟩ =>
    obtain rfl : p = 2 := Nat.add_left_cancel hp
    have hx : x < 64 := hbound x (by simp)
    have hw : w < 64 := hbound w (by simp)
    rw [closeEnding_one] at h
    split at h
    · cases h
      rw [encode_one hx]
      · rfl
      · rw [UInt8.toNat_ofNat']
        omega
    · cases h
  | [w, x, y], ⟨_, hp⟩ =>
    obtain rfl : p = 1 := Nat.add_left_cancel hp
    have hx : x < 64 := hbound x (by simp)
    have hy : y < 64 := hbound y (by simp)
    have hw : w < 64 := hbound w (by simp)
    rw [closeEnding_two] at h
    split at h
    · cases h
      rw [encode_two hx hy]
      · rfl
      · rw [UInt8.toNat_ofNat', UInt8.toNat_ofNat']
        omega
    · cases h
  | [w, x, y, z], ⟨_, hp⟩ =>
    obtain rfl : p = 0 := Nat.add_left_cancel hp
    rw [closeEnding_three] at h
    cases h
    have hx : x < 64 := hbound x (by simp)
    have hy : y < 64 := hbound y (by simp)
    have hw : w < 64 := hbound w (by simp)
    have hz : z < 64 := hbound z (by simp)
    rw [encode_three hx hy hz]
    · rfl
    · simp only [UInt8.toNat_ofNat']
      omega
  | _ :: _ :: _ :: _ :: _ :: _, ⟨_, hp⟩ =>
    simp only [List.length_cons] at hp
    omega

/-! ## All groups -/

theorem length_encode (bytes : List UInt8) : (encode bytes).length = (bytes.length + 2) / 3 * 4 := by
  fun_induction encode bytes with
  | case1 => rfl
  | case2 => simp
  | case3 => simp
  | case4 a b c rest n ih =>
    simp only [List.length_cons, ih]
    omega

/-- The last group is three bytes at most, and it is read and closed. -/
theorem readEnding_encode (offset : Nat) {bytes : List UInt8} (hne : bytes ≠ []) (hlength : bytes.length ≤ 3) :
    ∃ e, readEnding offset 0 {} (encode bytes) = .ok e ∧ closeEnding offset e = .ok bytes := by
  match bytes, hlength with
  | [a], _ =>
    obtain ⟨w, x, hw, hx, hn⟩ := exists_one a
    refine ⟨⟨[w, x], symbol x, 2, 2⟩, ?_, ?_⟩
    · rw [encode_one hx hn]
      simp [readEnding, value?_symbol, symbol_ne_pad, hw, hx]
    · rw [closeEnding_one, if_pos (by omega), show (w * 64 + x) / 16 = a.toNat by omega, UInt8.ofNat_toNat]
  | [a, b], _ =>
    obtain ⟨w, x, y, hw, hx, hy, hn⟩ := exists_two a b
    have hb := b.toNat_lt
    refine ⟨⟨[w, x, y], symbol y, 1, 3⟩, ?_, ?_⟩
    · rw [encode_two hx hy hn]
      simp [readEnding, value?_symbol, symbol_ne_pad, hw, hx, hy]
    · rw [closeEnding_two, if_pos (by omega), show ((w * 64 + x) * 64 + y) / 1024 = a.toNat by omega,
        show ((w * 64 + x) * 64 + y) / 4 % 256 = b.toNat by omega, UInt8.ofNat_toNat, UInt8.ofNat_toNat]
  | [a, b, c], _ =>
    obtain ⟨w, x, y, z, hw, hx, hy, hz, hn⟩ := exists_three a b c
    refine ⟨⟨[w, x, y, z], symbol z, 0, 0⟩, ?_, ?_⟩
    · rw [encode_three hx hy hz hn]
      simp [encode, readEnding, value?_symbol, symbol_ne_pad, hw, hx, hy, hz]
    · rw [closeEnding_three, bytes_of_eq hn.symm]

/-- Of five symbols or more, the first four are three bytes and the others are the bytes behind them. -/
theorem exists_of_five {a b c d e : UInt8} {rest bytes : List UInt8}
    (h : a :: b :: c :: d :: e :: rest = encode bytes) :
    ∃ x y z more, bytes = x :: y :: z :: more ∧ [a, b, c, d] = encode [x, y, z] ∧ e :: rest = encode more := by
  match bytes, h with
  | x :: y :: z :: more, h =>
    simp only [encode, List.cons.injEq] at h
    obtain ⟨rfl, rfl, rfl, rfl, hrest⟩ := h
    exact ⟨x, y, z, more, rfl, rfl, hrest⟩

/-- Groups are read just if they are what would be written, and there is one at least. -/
theorem decodeFrom_eq_ok_iff {offset : Nat} {symbols bytes : List UInt8} :
    decodeFrom offset symbols = .ok bytes ↔ symbols ≠ [] ∧ symbols = encode bytes := by
  fun_induction decodeFrom offset symbols generalizing bytes with
  | case1 offset a b c d e rest ih =>
    simp only [bind_eq_ok_iff, quad_eq_ok_iff, ih]
    constructor
    · rintro ⟨_, ⟨x, y, z, rfl, hquad⟩, more, ⟨-, hrest⟩, hbytes⟩
      cases hbytes
      refine ⟨nofun, ?_⟩
      rw [hrest]
      exact congrArg (· ++ encode more) hquad
    · rintro ⟨-, h⟩
      obtain ⟨x, y, z, more, rfl, hquad, hrest⟩ := exists_of_five h
      exact ⟨_, ⟨x, y, z, rfl, hquad⟩, more, ⟨nofun, hrest⟩, rfl⟩
  | case2 offset last hlast =>
    have hlength : last.length ≤ 4 := by
      match last, hlast with
      | [], _ => simp
      | [_], _ => simp
      | [_, _], _ => simp
      | [_, _, _], _ => simp
      | [_, _, _, _], _ => simp
      | a :: b :: c :: d :: e :: rest, hlast => exact (hlast a b c d e rest rfl).elim
    rw [bind_eq_ok_iff]
    constructor
    · rintro ⟨e, hread, hclose⟩
      obtain ⟨values, p, rfl, hbound, -, hvalues, hpadding⟩ := readEnding_eq_ok hread
      rw [List.nil_append] at hvalues
      rw [Nat.zero_add] at hpadding
      subst hvalues hpadding
      rw [List.length_append, List.length_map, List.length_replicate] at hlength
      have hbytes := eq_encode_of_closeEnding hbound hlength hclose
      refine ⟨?_, hbytes⟩
      intro hnil
      rw [hnil] at hread
      cases hread
      cases hclose
    · rintro ⟨hne, rfl⟩
      have hbytes : bytes.length ≤ 3 := by
        rw [length_encode] at hlength
        omega
      refine readEnding_encode offset ?_ hbytes
      rintro rfl
      exact hne rfl

/-- Symbols are read as bytes just if they are what would be written for the bytes. -/
theorem decode_eq_ok_iff {symbols bytes : List UInt8} : decode symbols = .ok bytes ↔ symbols = encode bytes := by
  unfold decode
  split
  · next hnil =>
    obtain rfl := List.isEmpty_iff.1 hnil
    constructor
    · intro h
      cases h
      rfl
    · intro h
      have hlength := length_encode bytes
      rw [← h, List.length_nil] at hlength
      have hbytes : bytes.length = 0 := by omega
      rw [List.eq_nil_of_length_eq_zero hbytes]
  · next hne =>
    have hne : symbols ≠ [] := fun h => hne (List.isEmpty_iff.2 h)
    dsimp only
    split
    · next hlast =>
      -- One symbol too many has a fault of its own, which tells where it stands.
      refine ⟨nofun, ?_⟩
      rintro rfl
      rw [length_encode] at hlast
      simp at hlast
    · rw [decodeFrom_eq_ok_iff]
      exact and_iff_right hne

end Fanout.Base64
