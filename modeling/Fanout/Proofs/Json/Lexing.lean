import Mathlib.Data.List.TakeDrop
import Fanout.Json.Reader
import Fanout.Json.Writer

/-!
# Texts and their tokens

* `Lexed cs ts` : the text `cs` is the tokens `ts` with blanks between them;
* `Partial.read_lexed` : to read a text is to read its tokens one after another; there is fuel enough, as a
  token takes at least one character;
* `Partial.step_cases` : what a token may do, and `Partial.read_keeps` : what every token keeps, a text keeps;
* `Lexed.word`, `Lexed.string` : the tokens of words and of quoted texts.

A word ends only where a character follows that is in no word, so the lemmas on words ask that of what follows.
-/

namespace Fanout.Json

inductive Lexed : List Char → List Token → Prop
  | nil : Lexed [] []
  | blank {c : Char} {cs : List Char} {ts : List Token} (hc : isBlank c = true) (h : Lexed cs ts) :
    Lexed (c :: cs) ts
  | token {c : Char} {cs rest : List Char} {t : Token} {ts : List Token} (hc : isBlank c = false)
      (ht : Token.next? c cs = some (t, rest)) (h : Lexed rest ts) : Lexed (c :: cs) (t :: ts)

/-! ## Reading tokens -/

theorem length_readString_le {done : Option (List Char)} {cs : List Char} {r : Option (List Char) × List Char}
    (h : readString done cs = some r) : r.2.length ≤ cs.length := by
  -- A case gives nothing, stops behind the closing quote, or reads on behind what it has read.
  fun_induction readString done cs
  case case1 => cases h
  all_goals
    simp only [List.length_cons]
    grind

theorem Token.length_next?_le {c : Char} {cs rest : List Char} {t : Token}
    (h : Token.next? c cs = some (t, rest)) : rest.length ≤ cs.length := by
  unfold Token.next? at h
  split at h
  case h_7 =>
    obtain ⟨r, hr, heq⟩ := Option.map_eq_some_iff.1 h
    cases heq
    exact length_readString_le hr
  case h_8 =>
    split_ifs at h
    obtain ⟨v, -, heq⟩ := Option.map_eq_some_iff.1 h
    cases heq
    exact (List.dropWhile_sublist _).length_le
  all_goals
    cases h
    exact Nat.le_refl _

namespace Partial

/-- To read a text is to read its tokens one after another. -/
theorem read_lexed (how : Reading) {cs : List Char} {ts : List Token} (h : Lexed cs ts) (p : Partial)
    {fuel : Nat} (hfuel : cs.length ≤ fuel) : read how fuel p cs = ts.foldlM (step how) p := by
  induction h generalizing p fuel with
  | nil => cases fuel <;> rfl
  | @blank c cs ts hc h ih =>
    obtain ⟨fuel, rfl⟩ : ∃ n, fuel = n + 1 := ⟨fuel - 1, by simp at hfuel; omega⟩
    rw [read, if_pos hc]
    exact ih p (by simpa using hfuel)
  | @token c cs rest t ts hc ht h ih =>
    obtain ⟨fuel, rfl⟩ : ∃ n, fuel = n + 1 := ⟨fuel - 1, by simp at hfuel; omega⟩
    have hrest : rest.length ≤ fuel := Nat.le_trans (Token.length_next?_le ht) (by simpa using hfuel)
    rw [read, if_neg (by simp [hc]), ht, List.foldlM_cons]
    cases hstep : step how p t with
    | none => simp [hstep]
    | some q => simpa [hstep] using ih q hrest

/-- A token starts a value, closes what is open, is a key, or changes only what may come next. -/
theorem step_cases {how : Reading} {p q : Partial} {t : Token} (h : step how p t = some q) :
    value? how p.stack t = some q ∨ close? how p.stack t = some q ∨ key? p.stack t = some q ∨
      ∃ a, q = ⟨a, p.stack, none⟩ := by
  unfold step at h
  cases ha : p.awaits with
  | value => exact .inl (by simpa only [ha] using h)
  | valueOrClose =>
    simp only [ha] at h
    split at h
    · exact .inr (.inl h)
    · exact .inl h
  | key => exact .inr (.inr (.inl (by simpa only [ha] using h)))
  | keyOrClose =>
    simp only [ha] at h
    split at h
    · exact .inr (.inl h)
    · exact .inr (.inr (.inl h))
  | colon =>
    simp only [ha] at h
    split at h <;> cases h
    exact .inr (.inr (.inr ⟨_, rfl⟩))
  | commaOrClose =>
    simp only [ha] at h
    split at h
    · split at h <;> cases h
      · exact .inr (.inr (.inr ⟨_, rfl⟩))
      · exact .inr (.inr (.inr ⟨_, rfl⟩))
    · exact .inr (.inl h)
  | nothing =>
    rw [ha] at h
    cases h

/-- What every token of a text keeps, the whole text keeps. -/
theorem read_keeps {how : Reading} {P : Partial → Prop}
    (hstep : ∀ ⦃p q : Partial⦄ ⦃c : Char⦄ ⦃cs rest : List Char⦄ ⦃t : Token⦄, P p →
      Token.next? c cs = some (t, rest) → step how p t = some q → P q)
    {p q : Partial} {fuel : Nat} {cs : List Char} (hp : P p) (h : read how fuel p cs = some q) : P q := by
  induction fuel generalizing p cs with
  | zero =>
    cases cs with
    | nil => cases h; exact hp
    | cons c cs => cases h
  | succ fuel ih =>
    cases cs with
    | nil => cases h; exact hp
    | cons c cs =>
      rw [read] at h
      split_ifs at h
      · exact ih hp h
      · split at h
        · cases h
        · next hnext =>
          split at h
          · cases h
          · next hq => exact ih (hstep hp hnext hq) h

end Partial

/-! ## Words -/

/-- A text that is made of characters of words. -/
def IsWord (cs : List Char) : Prop := ∀ c ∈ cs, isWordChar c = true

/-- A text in front of which a word ends. -/
def Apart (cs : List Char) : Prop := ∀ c ∈ cs.head?, isWordChar c = false

theorem Apart.cons {c : Char} (h : isWordChar c = false) (cs : List Char) : Apart (c :: cs) := by
  rintro _ ⟨⟩
  exact h

theorem takeWhile_word {w rest : List Char} (hw : IsWord w) (hrest : Apart rest) :
    (w ++ rest).takeWhile isWordChar = w ∧ (w ++ rest).dropWhile isWordChar = rest := by
  rw [List.takeWhile_append_of_pos hw, List.dropWhile_append_of_pos hw]
  cases rest with
  | nil => simp
  | cons c cs =>
    have hc : ¬isWordChar c = true := by simp [hrest c rfl]
    rw [List.takeWhile_cons_of_neg hc, List.dropWhile_cons_of_neg hc, List.append_nil]
    exact ⟨rfl, rfl⟩

theorem isBlank_of_isWordChar {c : Char} (h : isWordChar c = true) : isBlank c = false := by
  simp only [isBlank, Bool.or_eq_false_iff, beq_eq_false_iff_ne]
  refine ⟨⟨⟨?_, ?_⟩, ?_⟩, ?_⟩ <;>
    · rintro rfl
      exact absurd h (by decide)

theorem Token.next?_word {c : Char} (h : isWordChar c = true) (cs : List Char) :
    Token.next? c cs =
      (wordValue? (c :: cs.takeWhile isWordChar)).map fun v => (.scalar v, cs.dropWhile isWordChar) := by
  unfold Token.next?
  split
  case h_8 => rw [if_pos h]
  -- No mark is in a word.
  all_goals exact absurd h (by decide)

theorem Lexed.word {w rest : List Char} {v : Json} {ts : List Token} (hw : IsWord w)
    (hv : wordValue? w = some v) (hrest : Apart rest) (h : Lexed rest ts) :
    Lexed (w ++ rest) (.scalar v :: ts) := by
  cases w with
  | nil => cases hv
  | cons c cs =>
    obtain ⟨hc, hcs⟩ := List.forall_mem_cons.1 hw
    obtain ⟨htake, hdrop⟩ := takeWhile_word hcs hrest
    rw [List.cons_append]
    refine .token (isBlank_of_isWordChar hc) ?_ h
    rw [Token.next?_word hc, htake, hdrop, hv, Option.map_some]

/-! ## Quoted texts -/

theorem hexQuad?_control :
    ∀ n < 32, hexQuad? '0' '0' (hexDigit (n / 16)) (hexDigit (n % 16)) = some n := by
  decide

/-- A character that is no mark stands for itself. -/
theorem readString_plain (done : Option (List Char)) {c : Char} (cs : List Char) (hquote : c ≠ '"')
    (hback : c ≠ '\\') :
    readString done (c :: cs) = if c < ' ' then none else readString (done.map (c :: ·)) cs := by
  rw [readString]
  case x_1 => exact hquote
  all_goals
    intros
    exact hback ‹_›

/-- A character is read back from its spelling. -/
theorem readString_escape (done : Option (List Char)) (c : Char) (rest : List Char) :
    readString done (escape c ++ rest) = readString (done.map (c :: ·)) rest := by
  unfold escape
  split
  case h_8 hquote hback _ _ _ _ _ =>
    split_ifs with hc
    · have hn : c.toNat < 32 := hc
      have hofNat : Char.ofNat c.toNat = c := Char.ofNat_toNat c
      simp only [List.cons_append, List.nil_append, readString, hexQuad?_control c.toNat hn, hofNat]
      rw [if_neg (by simp; omega), if_pos (by simp; omega)]
    · rw [List.singleton_append, readString_plain done rest hquote hback, if_neg hc]
  all_goals simp only [List.cons_append, List.nil_append, readString]

theorem readString_quoted (done cs rest : List Char) :
    readString (some done) (cs.flatMap escape ++ '"' :: rest) = some (some (cs.reverse ++ done), rest) := by
  induction cs generalizing done with
  | nil => rw [List.flatMap_nil, List.nil_append, readString, List.reverse_nil, List.nil_append]
  | cons c cs ih =>
    rw [List.flatMap_cons, List.append_assoc, readString_escape, Option.map_some, ih,
      List.reverse_cons, List.append_assoc, List.singleton_append]

theorem Lexed.string (s : String) {rest : List Char} {ts : List Token} (h : Lexed rest ts) :
    Lexed (quote s ++ rest) (.scalar (.string s) :: ts) := by
  unfold quote
  rw [List.cons_append, List.append_assoc, List.singleton_append]
  refine .token (by decide) ?_ h
  simp only [Token.next?, readString_quoted, Option.map_some, Option.elim_some, List.append_nil,
    List.reverse_reverse, String.ofList_toList]

end Fanout.Json
