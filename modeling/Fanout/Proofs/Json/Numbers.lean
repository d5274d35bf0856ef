import Mathlib.Data.List.TakeWhile
import Mathlib.Tactic.Linarith
import Fanout.Proofs.Json.Lexing

/-!
# Numbers in JSON texts

* `Number.ReadsBack` : a number that is read back from its text. A double need not be: the reader multiplies
  or divides only once, and rounds twice;
* `Number.readsBack_nat` : integers of 64 bits are read back;
* `wordValue?_text` : the text of a number that is read back is the word of that number.
-/

namespace Fanout.Json

deriving instance DecidableEq for Number

def Number.ReadsBack (n : Number) : Prop := Number.ofText? n.text = some (some n)

instance : DecidablePred Number.ReadsBack := fun n =>
  inferInstanceAs (Decidable (Number.ofText? n.text = some (some n)))

example : (Number.float 12.5).ReadsBack ∧ ¬(Number.float 1e-30).ReadsBack := by decide +kernel

/-! ## The characters of a number -/

theorem isDigit_of_mem_digitsOf {n : Nat} {c : Char} (h : c ∈ digitsOf n) : isDigit c = true := by
  have hc := Char.isDigit_iff_toNat.1 (Nat.isDigit_of_mem_toDigits (by decide) (by decide) h)
  simp only [isDigit, Bool.and_eq_true, decide_eq_true_eq]
  exact hc

theorem isWordChar_of_isDigit {c : Char} (h : isDigit c = true) : isWordChar c = true := by
  simp only [isWordChar, h, Bool.true_or]

namespace IsWord

theorem nil : IsWord [] := fun _ h => nomatch h

theorem cons {c : Char} (hc : isWordChar c = true) {cs : List Char} (h : IsWord cs) : IsWord (c :: cs) :=
  List.forall_mem_cons.2 ⟨hc, h⟩

theorem append {cs ds : List Char} (hc : IsWord cs) (hd : IsWord ds) : IsWord (cs ++ ds) :=
  List.forall_mem_append.2 ⟨hc, hd⟩

theorem zeros (n : Nat) : IsWord (List.replicate n '0') := fun c hc => by
  rw [List.eq_of_mem_replicate hc]
  decide

theorem take {cs : List Char} (h : IsWord cs) (n : Nat) : IsWord (cs.take n) := fun c hc =>
  h c (List.mem_of_mem_take hc)

theorem drop {cs : List Char} (h : IsWord cs) (n : Nat) : IsWord (cs.drop n) := fun c hc =>
  h c (List.mem_of_mem_drop hc)

theorem digitsOf (n : Nat) : IsWord (digitsOf n) := fun _ h =>
  isWordChar_of_isDigit (isDigit_of_mem_digitsOf h)

end IsWord

theorem isWord_scientific (ds power : List Char) : IsWord ds → IsWord power → IsWord
    (match ds with
    | [c] => c :: 'e' :: power
    | c :: rest => c :: '.' :: (rest ++ 'e' :: power)
    | [] => []) := by
  intro hds hpower
  have hmark := hpower.cons (c := 'e') (by decide)
  split
  · exact .cons (hds _ List.mem_cons_self) hmark
  · obtain ⟨hc, hrest⟩ := List.forall_mem_cons.1 hds
    exact .cons hc (.cons (by decide) (.append hrest hmark))
  · exact .nil

theorem isWord_signText (d : Double) : IsWord d.signText := by
  unfold Double.signText
  split_ifs
  · exact .cons (by decide) .nil
  · exact .nil

theorem isWord_jsonText (d : Double) : IsWord d.jsonText := by
  have hzero : isWordChar '0' = true := by decide
  have hpoint : isWordChar '.' = true := by decide
  have hminus : IsWord ['-'] := .cons (by decide) .nil
  have hds := IsWord.digitsOf d.shortest.digits
  refine .append (isWord_signText d) ?_
  dsimp only
  split_ifs
  · exact .cons hzero (.cons hpoint (.cons hzero .nil))
  · exact .append (.append hds (.zeros _)) (.cons hpoint (.cons hzero .nil))
  · exact .append (hds.take _) (.cons hpoint (hds.drop _))
  · exact .cons hzero (.cons hpoint (.append (.zeros _) hds))
  · exact isWord_scientific _ _ hds (.append hminus (.digitsOf _))
  · exact isWord_scientific _ _ hds (.append .nil (.digitsOf _))

theorem isWord_plainText (d : Double) : IsWord d.plainText := by
  have hzero : isWordChar '0' = true := by decide
  have hpoint : isWordChar '.' = true := by decide
  have hds := IsWord.digitsOf d.shortest.digits
  refine .append (isWord_signText d) ?_
  dsimp only
  split_ifs
  · exact .cons hzero .nil
  · exact hds.append (.zeros _)
  · exact .append (hds.take _) (.cons hpoint (hds.drop _))
  · exact .cons hzero (.cons hpoint (.append (.zeros _) hds))

theorem isWord_fixedText (d : Double) : IsWord d.fixedText :=
  .append (.append (isWord_signText d) (.digitsOf _)) (.cons (by decide) (.digitsOf _))

theorem isWord_floatText {text : Double → List Char} (h : ∀ d, IsWord (text d)) (x : Float) :
    IsWord (floatText text x).toList := by
  rw [floatText, String.toList_ofList]
  cases Double.ofFloat? x with
  | some d => exact h d
  | none =>
    rw [Option.elim_none, specialText]
    split_ifs <;> exact List.all_eq_true.1 (by decide)

theorem isWord_text (n : Number) : IsWord n.text := by
  cases n with
  | nat n => exact .digitsOf n
  | neg n => exact .cons (by decide) (.digitsOf n)
  | float x => exact isWord_floatText isWord_jsonText x

/-- The text of a number that is read back is the word of that number. -/
theorem wordValue?_text {n : Number} (h : n.ReadsBack) : wordValue? n.text = some (.number n) := by
  unfold Number.ReadsBack at h
  unfold wordValue?
  split_ifs with hnull htrue hfalse
  · rw [hnull] at h
    cases h
  · rw [htrue] at h
    cases h
  · rw [hfalse] at h
    cases h
  · rw [h, Option.map_some, Option.elim_some]

/-! ## Integers -/

theorem readDigits_eq {cs : List Char} {n : Nat} (h : Nat.ofDigitChars 10 cs n < UInt64.size) :
    readDigits n cs = (Nat.ofDigitChars 10 cs n, 0) := by
  induction cs generalizing n with
  | nil => rfl
  | cons c cs ih =>
    have hnext : n * 10 + digitValue c = 10 * n + (c.toNat - '0'.toNat) := by
      rw [digitValue, Nat.mul_comm]
    have hlt : 10 * n + (c.toNat - '0'.toNat) < UInt64.size := by
      rw [Nat.ofDigitChars_cons, Nat.ofDigitChars_eq_ofDigitChars_zero] at h
      have := Nat.one_le_pow cs.length 10 (by decide)
      nlinarith
    rw [Nat.ofDigitChars_cons] at h ⊢
    rw [readDigits, hnext, if_pos hlt, ih h]

/-- Only zero begins with the digit zero. -/
theorem head?_digitsOf {n : Nat} (h : 0 < n) : (digitsOf n).head? ≠ some '0' := by
  induction n using Nat.strongRecOn with
  | ind n ih =>
    rw [digitsOf, Nat.toDigits_eq_if (by decide)]
    split_ifs with hn
    · have : ∀ n < 10, 0 < n → [n.digitChar].head? ≠ some '0' := by decide
      exact this n hn h
    · have hrest := ih (n / 10) (by omega) (by omega)
      rw [digitsOf] at hrest
      rwa [List.head?_append, List.head?_eq_some_head Nat.toDigits_ne_nil, Option.some_or,
        ← List.head?_eq_some_head]

/-- Integers of 64 bits are read back. -/
theorem Number.readsBack_nat {n : Nat} (h : n < UInt64.size) : (Number.nat n).ReadsBack := by
  have hdigits : ∀ c ∈ digitsOf n, isDigit c = true := fun _ => isDigit_of_mem_digitsOf
  have hvalue : Nat.ofDigitChars 10 (digitsOf n) 0 = n := Nat.ofDigitChars_ten_toDigits
  have htake : (digitsOf n).takeWhile isDigit = digitsOf n := List.takeWhile_eq_self_iff.2 hdigits
  have hdrop : (digitsOf n).dropWhile isDigit = [] := List.dropWhile_eq_nil_iff.2 hdigits
  have hzeros : ((digitsOf n).head? == some '0' && (digitsOf n).length > 1) = false := by
    obtain rfl | hpos := Nat.eq_zero_or_pos n
    · rfl
    · simp [head?_digitsOf hpos]
  have hmagnitude : readMagnitude? (digitsOf n) = some (some (.nat n)) := by
    rw [readMagnitude?]
    simp only [htake, hdrop, hzeros, readDigits_eq (hvalue.symm ▸ h), hvalue]
    simp [digitsOf, Nat.toDigits_ne_nil]
  rw [Number.ReadsBack, Number.text, Number.ofText?]
  · exact hmagnitude
  · intro r hminus
    exact absurd (hdigits '-' (by simp [hminus])) (by decide)

end Fanout.Json
