import Fanout.Proofs.Bytes.Utf8
import Fanout.Remote.Percent

/-!
# Percent encoding is undone by decoding

* `not_mem_encode` : which characters an encoded text does not have;
* `decode_encode_append` : an encoded text has the bytes of the text, whatever stands behind it, provided that `%`
  does not stand for itself;
* `decodeForm`, `decodeForm_formEncode` : the same for values of a form.
-/

namespace Fanout.Percent
open Text

/-! ## Digits -/

theorem hexValue?_hexDigit {n : Nat} (h : n < 16) : hexValue? (hexDigit n) = some n := by
  have hall : ∀ n < 16, hexValue? (hexDigit n) = some n := by decide
  exact hall n h

/-- A character that no byte is written with. -/
def isMark (c : Char) : Bool := c != '%' && (List.range 16).all fun n => hexDigit n != c

theorem mem_encodeByte {b : UInt8} {c : Char} (h : c ∈ encodeByte b) : isMark c = false := by
  have hdigit (n : Nat) (hn : n < 16) : isMark (hexDigit n) = false := by
    have hall : ∀ n < 16, isMark (hexDigit n) = false := by decide
    exact hall n hn
  have hb := b.toNat_lt
  rcases List.mem_cons.1 h with rfl | h
  · rfl
  rcases List.mem_cons.1 h with rfl | h
  · exact hdigit _ (by omega)
  · rw [List.mem_singleton.1 h]
    exact hdigit _ (by omega)

theorem mem_encodeChar {keeps : Char → Bool} {c d : Char} (hd : isMark d) (h : d ∈ encodeChar keeps c) :
    keeps c = true ∧ d = c := by
  unfold encodeChar at h
  split at h
  · rename_i hkeeps
    exact ⟨hkeeps, List.mem_singleton.1 h⟩
  · obtain ⟨b, -, hb⟩ := List.mem_flatMap.1 h
    rw [mem_encodeByte hb] at hd
    exact absurd hd Bool.false_ne_true

theorem mem_encode {keeps : Char → Bool} {cs : List Char} {d : Char} (hd : isMark d) (h : d ∈ encode keeps cs) :
    keeps d = true ∧ d ∈ cs := by
  obtain ⟨c, hc, hcd⟩ := List.mem_flatMap.1 h
  obtain ⟨hkeeps, rfl⟩ := mem_encodeChar hd hcd
  exact ⟨hkeeps, hc⟩

theorem not_mem_encode {keeps : Char → Bool} {d : Char} (hd : isMark d) (hkeeps : keeps d = false) (cs : List Char) :
    d ∉ encode keeps cs := by
  intro h
  rw [(mem_encode hd h).1] at hkeeps
  exact absurd hkeeps.symm Bool.false_ne_true

/-! ## Decoding -/

theorem decode_cons {c : Char} (h : c ≠ '%') (rest : List Char) :
    decode (c :: rest) = Utf8.encodeChar c ++ decode rest := by
  rw [decode]
  intro a b more heq
  exact absurd heq h

theorem decode_digits {a b : Char} {high low : Nat} (ha : hexValue? a = some high) (hb : hexValue? b = some low)
    (rest : List Char) : decode ('%' :: a :: b :: rest) = UInt8.ofNat (16 * high + low) :: decode rest := by
  rw [decode, ha, hb]

theorem decode_encodeByte_append (b : UInt8) (rest : List Char) :
    decode (encodeByte b ++ rest) = b :: decode rest := by
  have hb := b.toNat_lt
  have hhigh := hexValue?_hexDigit (n := b.toNat / 16) (by omega)
  have hlow := hexValue?_hexDigit (n := b.toNat % 16) (by omega)
  have hbyte := decode_digits hhigh hlow rest
  rwa [Nat.div_add_mod, UInt8.ofNat_toNat] at hbyte

theorem decode_flatMap_encodeByte_append (bytes : List UInt8) (rest : List Char) :
    decode (bytes.flatMap encodeByte ++ rest) = bytes ++ decode rest := by
  induction bytes with
  | nil => rfl
  | cons b bytes ih => rw [List.flatMap_cons, List.append_assoc, decode_encodeByte_append, ih, List.cons_append]

section
variable {keeps : Char → Bool} (h : keeps '%' = false)
include h

theorem decode_encodeChar_append (c : Char) (rest : List Char) :
    decode (encodeChar keeps c ++ rest) = Utf8.encodeChar c ++ decode rest := by
  unfold encodeChar
  split
  · rename_i hkeeps
    refine decode_cons (fun hc => ?_) rest
    rw [hc, h] at hkeeps
    exact absurd hkeeps Bool.false_ne_true
  · exact decode_flatMap_encodeByte_append _ rest

theorem decode_encode_append (cs rest : List Char) :
    decode (encode keeps cs ++ rest) = Utf8.encode cs ++ decode rest := by
  induction cs with
  | nil => rfl
  | cons c cs ih =>
    have hbytes : Utf8.encode (c :: cs) = Utf8.encodeChar c ++ Utf8.encode cs := List.flatMap_cons
    rw [encode, List.flatMap_cons, List.append_assoc, decode_encodeChar_append h, ← encode, ih, hbytes,
      List.append_assoc]

theorem decode_encode (cs : List Char) : decode (encode keeps cs) = Utf8.encode cs := by
  have happend := decode_encode_append h cs []
  rw [List.append_nil] at happend
  rw [happend]
  exact List.append_nil _

end

/-! ## Forms -/

/-- A character of a form, where a plus sign stands for a space. -/
def spaced (c : Char) : Char := if c == '+' then ' ' else c

/-- The bytes of a value of a form. -/
def decodeForm (cs : List Char) : List UInt8 := decode (cs.map spaced)

theorem map_spaced {cs : List Char} (h : '+' ∉ cs) : cs.map spaced = cs := by
  refine (List.map_congr_left fun c hc => ?_).trans (List.map_id cs)
  have hplus : c ≠ '+' := fun heq => h (heq ▸ hc)
  rw [spaced, if_neg (by simpa using hplus)]
  rfl

theorem map_spaced_formEncode (cs : List Char) :
    (formEncode cs).map spaced = encode (fun c => c == ' ' || keptInForm c) cs := by
  rw [formEncode, encode, List.map_flatMap]
  refine congrArg (List.flatMap · cs) (funext fun c => ?_)
  by_cases hspace : c = ' '
  · subst hspace
    rfl
  · have hspace : (c == ' ') = false := beq_eq_false_iff_ne.2 hspace
    have hplus : '+' ∉ encodeChar keptInForm c := fun h => by
      obtain ⟨hkeeps, rfl⟩ := mem_encodeChar (by decide) h
      exact absurd hkeeps (by decide)
    simp only [hspace, Bool.false_eq_true, if_false]
    rw [map_spaced hplus]
    simp only [encodeChar, hspace, Bool.false_or]

theorem decodeForm_formEncode (cs : List Char) : decodeForm (formEncode cs) = Utf8.encode cs := by
  rw [decodeForm, map_spaced_formEncode]
  exact decode_encode (by decide) cs

theorem not_mem_formEncode {d : Char} (hd : isMark d) (hplus : d ≠ '+') (hkeeps : keptInForm d = false)
    (cs : List Char) : d ∉ formEncode cs := by
  intro h
  obtain ⟨c, -, hc⟩ := List.mem_flatMap.1 h
  split at hc
  · exact hplus (List.mem_singleton.1 hc)
  · obtain ⟨hc, rfl⟩ := mem_encodeChar hd hc
    rw [hkeeps] at hc
    exact absurd hc Bool.false_ne_true

end Fanout.Percent
