import Fanout.Proofs.Bytes.Base64
import Fanout.Proofs.Bytes.Utf8
import Fanout.Remote.Content

/-!
# Contents are read back

* `Spaced` : a text with blanks put in anywhere, and `spaced_iff` : the text is what is left without them;
* `Base64.written` : bytes in base64 as a text, and `Base64.encode_written` : its bytes are the symbols;
* `Contains` : a content is one of those that a text has, spaced in any way;
* `decodeContent_contains` : a content is read as a text just if it is one of the contents of the text, and any other
  content cannot be decoded.
-/

namespace Fanout

/-! ## Blanks in a text -/

/-- The second text is the first one with blanks put in anywhere. -/
inductive Spaced : List Char → List Char → Prop
  | nil : Spaced [] []
  | keep (c : Char) {cs content : List Char} (h : Spaced cs content) : Spaced (c :: cs) (c :: content)
  | blank {c : Char} (hc : Text.isBlank c = true) {cs content : List Char} (h : Spaced cs content) :
    Spaced cs (c :: content)

/-- A text without blanks is what is left of the text with blanks put in. -/
theorem spaced_iff {cs content : List Char} (visible : ∀ c ∈ cs, Text.isBlank c = false) :
    Spaced cs content ↔ content.filter (fun c => !Text.isBlank c) = cs := by
  constructor
  · intro h
    induction h with
    | nil => rfl
    | keep c _ ih =>
      obtain ⟨hc, visible⟩ := List.forall_mem_cons.1 visible
      rw [List.filter_cons_of_pos (by simp [hc]), ih visible]
    | blank hc _ ih => rw [List.filter_cons_of_neg (by simp [hc]), ih visible]
  · intro h
    induction content generalizing cs with
    | nil =>
      rw [← h]
      exact .nil
    | cons c content ih =>
      by_cases hc : Text.isBlank c = true
      · rw [List.filter_cons_of_neg (by simp [hc])] at h
        exact .blank hc (ih visible h)
      · rw [List.filter_cons_of_pos (by simpa using hc)] at h
        subst h
        exact .keep c (ih (List.forall_mem_cons.1 visible).2 rfl)

/-! ## Symbols as a text -/

namespace Base64

/-- Bytes in base64, as a text. -/
def written (bytes : List UInt8) : List Char := (encode bytes).map fun b => Char.ofNat b.toNat

theorem symbol_visible {n : Nat} (h : n < 64) : 32 < (symbol n).toNat ∧ (symbol n).toNat < 127 := by
  have hall : ∀ k < 64, 32 < (symbol k).toNat ∧ (symbol k).toNat < 127 := by decide
  exact hall n h

/-- Symbols and padding are visible characters of ASCII. -/
theorem encode_visible (bytes : List UInt8) : ∀ b ∈ encode bytes, 32 < b.toNat ∧ b.toNat < 127 := by
  fun_induction encode bytes with
  | case1 => exact List.forall_mem_nil _
  | case2 a n =>
    have hn : n < 256 := a.toNat_lt
    simp only [List.forall_mem_cons]
    exact ⟨symbol_visible (by omega), symbol_visible (by omega), by decide, by decide, List.forall_mem_nil _⟩
  | case3 a b n =>
    have hn : n < 65536 := by
      have ha := a.toNat_lt
      have hb := b.toNat_lt
      omega
    simp only [List.forall_mem_cons]
    exact ⟨symbol_visible (by omega), symbol_visible (by omega), symbol_visible (by omega), by decide,
      List.forall_mem_nil _⟩
  | case4 a b c rest n ih =>
    have hn : n < 16777216 := by
      have ha := a.toNat_lt
      have hb := b.toNat_lt
      have hc := c.toNat_lt
      omega
    simp only [List.forall_mem_cons]
    exact ⟨symbol_visible (by omega), symbol_visible (by omega), symbol_visible (by omega), symbol_visible (by omega),
      ih⟩

/-- A byte as a character of its number, and back. -/
theorem char_toNat {b : UInt8} : (Char.ofNat b.toNat).toNat = b.toNat :=
  Utf8.char_toNat_ofNat (.inl (Nat.lt_trans b.toNat_lt (by decide)))

theorem not_blank_of_mem_written {bytes : List UInt8} : ∀ c ∈ written bytes, Text.isBlank c = false := by
  intro c hc
  obtain ⟨b, hb, rfl⟩ := List.mem_map.1 hc
  obtain ⟨hlow, hhigh⟩ := encode_visible bytes b hb
  simp only [Text.isBlank, char_toNat, Bool.or_eq_false_iff, Bool.and_eq_false_iff, decide_eq_false_iff_not,
    beq_eq_false_iff_ne]
  omega

/-- The bytes of the text are the symbols themselves. -/
theorem encode_written (bytes : List UInt8) : Utf8.encode (written bytes) = encode bytes := by
  rw [Utf8.encode, written, List.flatMap_map]
  have hbyte : ∀ b ∈ encode bytes, Utf8.encodeChar (Char.ofNat b.toNat) = [b] := by
    intro b hb
    have hhigh := (encode_visible bytes b hb).2
    rw [Utf8.encodeChar_one, char_toNat, UInt8.ofNat_toNat]
    rw [char_toNat]
    omega
  rw [List.flatMap_def, List.map_congr_left hbyte, ← List.flatMap_def, List.flatMap_singleton']

end Base64

/-! ## Contents -/

/-- The content is one of the contents of the text: the base64 of its bytes with blanks anywhere, whose encoding is
named or left out. -/
def Contains (content encoding text : String) : Prop :=
  (encoding = "" ∨ encoding = "base64") ∧ Spaced (Base64.written (Utf8.encode text.toList)) content.toList

theorem unspaced_eq_iff {content : String} {bytes : List UInt8} :
    Utf8.encode (unspaced content) = Base64.encode bytes ↔ Spaced (Base64.written bytes) content.toList := by
  rw [spaced_iff Base64.not_blank_of_mem_written, ← Base64.encode_written]
  constructor
  · intro h
    have hdecode := Utf8.decode_encode (unspaced content)
    rw [h, Utf8.decode_encode] at hdecode
    exact (Except.ok.inj hdecode).symm
  · intro h
    rw [← h]
    rfl

theorem decodeContent_eq_ok_iff {content encoding text : String} :
    decodeContent content encoding = .ok text ↔ Contains content encoding text := by
  constructor
  · intro h
    unfold decodeContent at h
    split at h
    · cases h
    · next hencoding =>
      split at h
      · cases h
      · next bytes hbytes =>
        split at h
        · cases h
        · next cs hcs =>
          cases h
          refine ⟨?_, unspaced_eq_iff.1 ?_⟩
          · simp only [Bool.and_eq_true, bne_iff_ne, ne_eq, not_and, Decidable.not_not] at hencoding
            exact Decidable.or_iff_not_imp_left.2 hencoding
          · rw [Base64.decode_eq_ok_iff.1 hbytes, Utf8.decode_eq_ok_iff.1 hcs, String.toList_ofList]
  · rintro ⟨hencoding, hspaced⟩
    have hnamed : ¬(encoding != "" && encoding != "base64") = true := by
      rcases hencoding with rfl | rfl <;> decide
    unfold decodeContent
    rw [if_neg hnamed, Base64.decode_eq_ok_iff.2 (unspaced_eq_iff.2 hspaced)]
    dsimp only
    rw [Utf8.decode_encode]
    dsimp only
    rw [String.ofList_toList]

/-- Whatever stops the reading of a content, the content cannot be decoded. -/
theorem exists_reason {content encoding : String} {e : RemoteError} (h : decodeContent content encoding = .error e) :
    ∃ reason, e = .undecodable reason := by
  unfold decodeContent at h
  split at h
  · cases h
    exact ⟨_, rfl⟩
  · split at h
    · cases h
      exact ⟨_, rfl⟩
    · split at h
      · cases h
        exact ⟨_, rfl⟩
      · cases h

/-- A content is read as a text just if it is one of the contents of the text. Any other content cannot be decoded,
and so is reported. -/
theorem decodeContent_contains (content encoding : String) :
    (∀ text, decodeContent content encoding = .ok text ↔ Contains content encoding text) ∧
      ((∃ text, Contains content encoding text) ∨
        ∃ reason, decodeContent content encoding = .error (.undecodable reason)) := by
  refine ⟨fun text => decodeContent_eq_ok_iff, ?_⟩
  cases h : decodeContent content encoding with
  | ok text => exact .inl ⟨text, decodeContent_eq_ok_iff.1 h⟩
  | error e =>
    obtain ⟨reason, rfl⟩ := exists_reason h
    exact .inr ⟨reason, rfl⟩

/-- Padding that is missing, bits that no byte needs, a sign of no alphabet, bytes that are no text, another
encoding. -/
example :
    decodeContent "Q Q\u2003==\n" "" = .ok "A" ∧
      decodeContent "QQ=" "base64" = .error (.undecodable "Invalid padding") ∧
      decodeContent "QR==" "base64" = .error (.undecodable "Invalid last symbol 82, offset 1.") ∧
      decodeContent "Q-==" "base64" = .error (.undecodable "Invalid symbol 45, offset 1.") ∧
      decodeContent "/w==" "base64" = .error (.undecodable "invalid utf-8 sequence of 1 bytes from index 0") ∧
      decodeContent "QQ==" "utf-8" = .error (.undecodable "unsupported encoding utf-8") := by
  refine ⟨?_, ?_, ?_, ?_, ?_, ?_⟩ <;> rfl

end Fanout
