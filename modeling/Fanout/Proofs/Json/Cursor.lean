import Fanout.Json.Cursor
import Fanout.Proofs.Bytes.Utf8
import Fanout.Proofs.Json.Lexing

/-!
# Texts at a cursor

* `Cursor.Faces c cs rest` : the characters `cs` are the next to be read, and then the bytes `rest`;
* `GoesOn` : what reading the bytes of a text comes to, whatever fuel there is enough of;
* `readText_quoted` : a quoted text is read back, whatever follows it.
-/

namespace Fanout.Json
open Cursor

/-! ## Bytes and characters -/

theorem byteChar_byte {x : Char} (h : x.toNat < 0x80) : byteChar (byte x) = x := by
  rw [byteChar, byte, Utf8.toNat_ofNat (by omega), Char.ofNat_toNat]

theorem encode_ascii {x : Char} (h : x.toNat < 0x80) (cs : List Char) :
    Utf8.encode (x :: cs) = byte x :: Utf8.encode cs := by
  rw [Utf8.encode, List.flatMap_cons, Utf8.encodeChar_one h]
  rfl

theorem encode_append (cs ds : List Char) : Utf8.encode (cs ++ ds) = Utf8.encode cs ++ Utf8.encode ds :=
  List.flatMap_append

namespace Cursor

theorem rest_advance (c : Cursor) : c.advance.rest = c.rest.tail := by
  unfold advance
  split
  · next h => rw [h, List.tail_nil]
  · next h =>
    rw [h, List.tail_cons]
    split <;> rfl

theorem rest_advanceBy (n : Nat) (c : Cursor) : (advanceBy n c).rest = c.rest.drop n := by
  induction n generalizing c with
  | zero => rfl
  | succ n ih => rw [advanceBy, ih, rest_advance, List.drop_tail]

/-- The next characters are `cs`, and behind them stand the bytes `rest`. -/
def Faces (c : Cursor) (cs : List Char) (rest : List UInt8) : Prop := c.rest = Utf8.encode cs ++ rest

section
variable {c : Cursor} {x : Char} {cs ds : List Char} {rest : List UInt8}

theorem Faces.rest_eq (h : c.Faces (x :: cs) rest) (hx : x.toNat < 0x80) :
    c.rest = byte x :: (Utf8.encode cs ++ rest) := by
  rw [h, encode_ascii hx, List.cons_append]

theorem Faces.peek? (h : c.Faces (x :: cs) rest) (hx : x.toNat < 0x80) : c.peek? = some x := by
  rw [Cursor.peek?, h.rest_eq hx, List.head?_cons, Option.map_some, byteChar_byte hx]

theorem Faces.advance (h : c.Faces (x :: cs) rest) (hx : x.toNat < 0x80) : c.advance.Faces cs rest := by
  rw [Faces, rest_advance, h.rest_eq hx, List.tail_cons]

theorem faces_append : c.Faces (cs ++ ds) rest ↔ c.Faces cs (Utf8.encode ds ++ rest) := by
  rw [Faces, Faces, encode_append, List.append_assoc]

theorem skipBlank_eq (h : c.peek? = some x) (hx : isBlank x = false) : c.skipBlank = c := by
  unfold Cursor.peek? at h
  obtain ⟨b, hb, rfl⟩ := Option.map_eq_some_iff.1 h
  obtain ⟨bs, hrest⟩ := List.head?_eq_some_iff.1 hb
  rw [skipBlank, span, hrest, List.takeWhile_cons_of_neg (by simp [hx])]
  rfl

end

/-! ## Quoted texts -/

/-- Reading a text goes on in front of `rest` with the bytes `done'`, whatever fuel there is enough of. -/
def GoesOn (done : List UInt8) (c : Cursor) (done' rest : List UInt8) : Prop :=
  ∀ fuel, c.rest.length < fuel →
    ∃ c' fuel', c'.rest = rest ∧ rest.length < fuel' ∧ readBytes fuel done c = readBytes fuel' done' c'

/-- A byte that stands for itself inside a text. -/
def IsPlain (b : UInt8) : Prop := b ≠ byte '"' ∧ b ≠ byte '\\' ∧ ¬b < 0x20

theorem goesOn_plain {bs : List UInt8} (hbs : ∀ b ∈ bs, IsPlain b) (done : List UInt8) {c : Cursor}
    {rest : List UInt8} (hc : c.rest = bs ++ rest) : GoesOn done c (bs.reverse ++ done) rest := by
  induction bs generalizing done c with
  | nil =>
    intro fuel hfuel
    exact ⟨c, fuel, hc, by rwa [hc, List.nil_append] at hfuel, rfl⟩
  | cons b bs ih =>
    obtain ⟨⟨hquote, hback, hcontrol⟩, hbs⟩ := List.forall_mem_cons.1 hbs
    intro fuel hfuel
    obtain ⟨fuel, rfl⟩ : ∃ n, fuel = n + 1 := ⟨fuel - 1, by omega⟩
    have hrest : c.advance.rest = bs ++ rest := by rw [rest_advance, hc, List.cons_append, List.tail_cons]
    have hstep : readBytes (fuel + 1) done c = readBytes fuel (b :: done) c.advance := by
      rw [readBytes, hc, List.cons_append]
      dsimp only
      rw [if_neg (by simpa using hquote), if_neg (by simpa using hback), if_neg hcontrol]
    have hlength : c.advance.rest.length < fuel := by
      rw [hc, List.cons_append, List.length_cons, ← hrest] at hfuel
      omega
    obtain ⟨c', fuel', hc', hfuel', heq⟩ := ih hbs (b :: done) hrest fuel hlength
    refine ⟨c', fuel', hc', hfuel', ?_⟩
    rw [hstep, heq, List.reverse_cons, List.append_assoc, List.singleton_append]

theorem readEscape_simple {c : Cursor} {letter e : Char} {rest : List UInt8} (hc : c.Faces [letter] rest)
    (hletter : letter.toNat < 0x80) (he : simpleEscape? letter = some e) :
    c.readEscape = .ok (e, c.advance) := by
  unfold readEscape
  rw [hc.peek? hletter]
  split
  · next h => cases h
  · next h =>
    cases h
    rw [show simpleEscape? 'u' = none from rfl] at he
    cases he
  · next h =>
    cases h
    rw [he]

theorem hexDigit_ascii : ∀ n < 16, (hexDigit n).toNat < 0x80 := by decide

/-- The four digits of a control character. -/
theorem readEscape_control {c : Cursor} {n : Nat} (hn : n < 32) {rest : List UInt8}
    (hc : c.Faces ['u', '0', '0', hexDigit (n / 16), hexDigit (n % 16)] rest) :
    ∃ c', c.readEscape = .ok (Char.ofNat n, c') ∧ c'.rest = rest := by
  have hhigh : (hexDigit (n / 16)).toNat < 0x80 := hexDigit_ascii _ (by omega)
  have hlow : (hexDigit (n % 16)).toNat < 0x80 := hexDigit_ascii _ (by omega)
  have hdigits : c.advance.rest =
      byte '0' :: byte '0' :: byte (hexDigit (n / 16)) :: byte (hexDigit (n % 16)) :: rest := by
    have h := hc.advance (by decide)
    rw [Faces, encode_ascii (by decide), encode_ascii (by decide), encode_ascii hhigh, encode_ascii hlow] at h
    exact h
  have hquad : c.advance.readQuad = .ok (n, advanceBy 4 c.advance) := by
    rw [readQuad, hdigits]
    dsimp only
    rw [byteChar_byte (by decide), byteChar_byte hhigh, byteChar_byte hlow, hexQuad?_control n hn]
  refine ⟨advanceBy 4 c.advance, ?_, by rw [rest_advanceBy, hdigits]; rfl⟩
  unfold readEscape
  rw [hc.peek? (by decide)]
  show c.advance.readUnicode = _
  rw [readUnicode, hquad]
  have hlowHalf : isLowHalf n = false := by simp [isLowHalf]; omega
  have hhighHalf : isHighHalf n = false := by simp [isHighHalf]; omega
  show (if isLowHalf n then _ else if isHighHalf n then _ else _) = _
  rw [hlowHalf, hhighHalf]
  rfl

/-- An escape is read behind its backslash. -/
theorem goesOn_escape {x : Char} {cs : List Char} {c c' : Cursor} {rest : List UInt8}
    (hc : c.Faces ('\\' :: cs) rest) (hread : c.advance.readEscape = .ok (x, c')) (hc' : c'.rest = rest)
    (done : List UInt8) : GoesOn done c ((Utf8.encodeChar x).reverse ++ done) rest := by
  intro fuel hfuel
  obtain ⟨fuel, rfl⟩ : ∃ n, fuel = n + 1 := ⟨fuel - 1, by omega⟩
  have hrest := hc.rest_eq (by decide)
  have hlength : rest.length < fuel := by
    rw [hrest, List.length_cons, List.length_append] at hfuel
    omega
  refine ⟨c', fuel, hc', hlength, ?_⟩
  rw [readBytes, hrest]
  dsimp only
  rw [if_neg (by decide), if_pos (by decide), hread]
  rfl

theorem goesOn_simple {letter x : Char} {c : Cursor} {rest : List UInt8} (hc : c.Faces ['\\', letter] rest)
    (hletter : letter.toNat < 0x80) (he : simpleEscape? letter = some x) (done : List UInt8) :
    GoesOn done c ((Utf8.encodeChar x).reverse ++ done) rest := by
  have hbehind := hc.advance (by decide)
  exact goesOn_escape hc (readEscape_simple hbehind hletter he) (hbehind.advance hletter) done

theorem isPlain_of_ascii {x : Char} (hquote : x ≠ '"') (hback : x ≠ '\\') (hcontrol : ¬x < ' ')
    (hx : x.toNat < 0x80) : IsPlain (byte x) := by
  have hbyte {y : Char} (hy : y.toNat < 0x80) (heq : byte x = byte y) : x = y := by
    rw [← byteChar_byte hx, ← byteChar_byte hy, heq]
  refine ⟨fun h => hquote (hbyte (by decide) h), fun h => hback (hbyte (by decide) h), fun h => hcontrol ?_⟩
  rw [UInt8.lt_iff_toNat_lt, byte, Utf8.toNat_ofNat (by omega)] at h
  exact h

theorem isPlain_of_le {b : UInt8} (h : 0x80 ≤ b.toNat) : IsPlain b := by
  have hne {y : Char} (hy : y.toNat < 0x80) : b ≠ byte y := by
    rintro rfl
    rw [byte, Utf8.toNat_ofNat (by omega)] at h
    omega
  refine ⟨hne (by decide), hne (by decide), fun hlt => ?_⟩
  rw [UInt8.lt_iff_toNat_lt] at hlt
  have hlt : b.toNat < 0x20 := hlt
  omega

theorem goesOn_char (x : Char) {c : Cursor} {rest : List UInt8} (hc : c.Faces (escape x) rest)
    (done : List UInt8) : GoesOn done c ((Utf8.encodeChar x).reverse ++ done) rest := by
  unfold escape at hc
  split at hc
  case h_8 hquote hback _ _ _ _ _ =>
    split_ifs at hc with hcontrol
    · have hn : x.toNat < 32 := hcontrol
      obtain ⟨c', hread, hc'⟩ := readEscape_control hn (hc.advance (by decide))
      rw [Char.ofNat_toNat] at hread
      exact goesOn_escape hc hread hc' done
    · have hbytes : c.rest = Utf8.encodeChar x ++ rest := by
        rw [hc, Utf8.encode, List.flatMap_cons, List.flatMap_nil, List.append_nil]
      refine goesOn_plain (fun b hb => ?_) done hbytes
      rcases Nat.lt_or_ge x.toNat 0x80 with hx | hx
      · rw [Utf8.encodeChar_one hx, List.mem_singleton] at hb
        exact hb ▸ isPlain_of_ascii hquote hback hcontrol hx
      · exact isPlain_of_le (Utf8.le_of_mem_encodeChar hx hb)
  all_goals exact goesOn_simple hc (by decide) rfl done

theorem goesOn_text (cs : List Char) {c : Cursor} {rest : List UInt8} (hc : c.Faces (cs.flatMap escape) rest)
    (done : List UInt8) : GoesOn done c ((Utf8.encode cs).reverse ++ done) rest := by
  induction cs generalizing c done with
  | nil => exact @goesOn_plain [] (by simp) done c rest hc
  | cons x cs ih =>
    rw [List.flatMap_cons, faces_append] at hc
    intro fuel hfuel
    obtain ⟨c₁, fuel₁, hc₁, hfuel₁, heq₁⟩ := goesOn_char x hc done fuel hfuel
    obtain ⟨c₂, fuel₂, hc₂, hfuel₂, heq₂⟩ := ih hc₁ ((Utf8.encodeChar x).reverse ++ done) fuel₁ (hc₁ ▸ hfuel₁)
    refine ⟨c₂, fuel₂, hc₂, hfuel₂, ?_⟩
    have hencode : Utf8.encode (x :: cs) = Utf8.encodeChar x ++ Utf8.encode cs := List.flatMap_cons
    rw [heq₁, heq₂, hencode, List.reverse_append, List.append_assoc]

/-- A quoted text is read back, whatever follows it. -/
theorem readText_quoted (s : String) {c : Cursor} {rest : List UInt8}
    (hc : c.Faces (s.toList.flatMap escape ++ ['"']) rest) :
    ∃ c', c.readText = .ok (s, c') ∧ c'.rest = rest := by
  rw [faces_append] at hc
  obtain ⟨c', fuel, hc', hfuel, heq⟩ := goesOn_text s.toList hc [] (c.rest.length + 1) (Nat.lt_succ_self _)
  have hend : c'.Faces ['"'] rest := hc'
  obtain ⟨fuel, rfl⟩ : ∃ n, fuel = n + 1 := ⟨fuel - 1, by omega⟩
  have hbytes : readBytes (fuel + 1) ((Utf8.encode s.toList).reverse ++ []) c' =
      .ok (Utf8.encode s.toList, c'.advance) := by
    rw [readBytes, hend.rest_eq (by decide)]
    dsimp only
    rw [if_pos (by decide), List.append_nil, List.reverse_reverse]
  refine ⟨c'.advance, ?_, hend.advance (by decide)⟩
  rw [readText, heq, hbytes]
  show Except.ok (ofBytes (Utf8.encode s.toList), c'.advance) = _
  rw [ofBytes, Utf8.decode_encode]
  dsimp only
  rw [String.ofList_toList]

end Cursor
end Fanout.Json
