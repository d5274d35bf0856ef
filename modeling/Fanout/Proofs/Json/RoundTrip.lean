import Fanout.Proofs.Json.Parsing

/-!
# Values are read back from their texts

* `Spells cs us` : the text `cs` is the tokens `us`, if no word goes on behind it;
* `spells_separated` : so are parts of a list with commas between them;
* `Legible.spells_compact`, `Legible.spells_pretty` : both texts of a value are its tokens;
* `parse?_compact`, `parse?_pretty` : a legible value is read back from either of its texts;
* `parseRaw?_compact`, `parseRaw?_pretty` : so it is by the reader without a limit, however deep it nests.
-/

namespace Fanout.Json

def Spells (cs : List Char) (us : List Token) : Prop :=
  ∀ ⦃rest : List Char⦄ ⦃ts : List Token⦄, Apart rest → Lexed rest ts → Lexed (cs ++ rest) (us ++ ts)

theorem Spells.lexed {cs : List Char} {us : List Token} (h : Spells cs us) : Lexed cs us := by
  have hend : Apart [] := by rintro _ ⟨⟩
  simpa using h hend .nil

/-! ## Marks and blanks -/

section
variable {rest : List Char} {ts : List Token}

theorem Lexed.openArray (h : Lexed rest ts) : Lexed ('[' :: rest) (.openArray :: ts) :=
  .token (by decide) rfl h

theorem Lexed.closeArray (h : Lexed rest ts) : Lexed (']' :: rest) (.closeArray :: ts) :=
  .token (by decide) rfl h

theorem Lexed.openObject (h : Lexed rest ts) : Lexed ('{' :: rest) (.openObject :: ts) :=
  .token (by decide) rfl h

theorem Lexed.closeObject (h : Lexed rest ts) : Lexed ('}' :: rest) (.closeObject :: ts) :=
  .token (by decide) rfl h

theorem Lexed.comma (h : Lexed rest ts) : Lexed (',' :: rest) (.comma :: ts) :=
  .token (by decide) rfl h

theorem Lexed.colon (h : Lexed rest ts) : Lexed (':' :: rest) (.colon :: ts) :=
  .token (by decide) rfl h

theorem Lexed.blanks {bs : List Char} (hbs : ∀ c ∈ bs, isBlank c = true) (h : Lexed rest ts) :
    Lexed (bs ++ rest) ts := by
  induction bs with
  | nil => exact h
  | cons b bs ih =>
    obtain ⟨hb, hbs⟩ := List.forall_mem_cons.1 hbs
    exact .blank hb (ih hbs)

theorem Lexed.lineBreak (level : Nat) (h : Lexed rest ts) : Lexed (lineBreak level ++ rest) ts := by
  refine .blank (by decide) (.blanks (fun c hc => ?_) h)
  rw [List.eq_of_mem_replicate hc]
  decide

theorem apart_lineBreak (level : Nat) : Apart (Json.lineBreak level ++ rest) := .cons (by decide) _

end

/-! ## Scalars -/

theorem spells_word {w : List Char} {v : Json} (hw : IsWord w) (hv : wordValue? w = some v) :
    Spells w [.scalar v] := fun _ _ hrest h => .word hw hv hrest h

theorem spells_null : Spells (compactChars .null) (tokens .null) :=
  spells_word (List.all_eq_true.1 (by decide)) rfl

theorem spells_bool (b : Bool) : Spells (compactChars (.bool b)) (tokens (.bool b)) := by
  cases b with
  | false => exact spells_word (List.all_eq_true.1 (by decide)) rfl
  | true => exact spells_word (List.all_eq_true.1 (by decide)) rfl

theorem spells_number {n : Number} (h : n.ReadsBack) :
    Spells (compactChars (.number n)) (tokens (.number n)) :=
  spells_word (isWord_text n) (wordValue?_text h)

theorem spells_string (s : String) : Spells (compactChars (.string s)) (tokens (.string s)) :=
  fun _ _ _ h => .string s h

/-! ## Parts with commas between them -/

/-- What is written of a list is what is written of its elements, with a mark between each two. -/
structure Separated {α β : Type} (mark : β) (one : α → List β) (all : List α → List β) : Prop where
  nil : all [] = []
  single : ∀ x, all [x] = one x
  cons : ∀ x y xs, all (x :: y :: xs) = one x ++ mark :: all (y :: xs)

def memberTokensOf (m : String × Json) : List Token := .scalar (.string m.1) :: .colon :: tokens m.2

theorem itemTokens_separated : Separated .comma tokens itemTokens :=
  ⟨rfl, fun _ => rfl, fun _ _ _ => rfl⟩

theorem memberTokens_separated : Separated .comma memberTokensOf memberTokens :=
  ⟨rfl, fun _ => rfl, fun _ _ _ => rfl⟩

theorem spells_separated {α : Type} {one : α → List Char} {all : List α → List Char}
    {oneTokens : α → List Token} {allTokens : List α → List Token} (hall : Separated ',' one all)
    (htokens : Separated .comma oneTokens allTokens) {xs : List α}
    (each : ∀ x ∈ xs, Spells (one x) (oneTokens x)) : Spells (all xs) (allTokens xs) := by
  induction xs with
  | nil =>
    rw [hall.nil, htokens.nil]
    exact fun _ _ _ h => h
  | cons x xs ih =>
    obtain ⟨hx, hxs⟩ := List.forall_mem_cons.1 each
    cases xs with
    | nil =>
      rw [hall.single, htokens.single]
      exact hx
    | cons y xs =>
      intro rest ts hrest h
      rw [hall.cons, htokens.cons, List.append_assoc, List.append_assoc, List.cons_append,
        List.cons_append]
      exact hx (.cons (by decide) _) (.comma (ih hxs hrest h))

/-! ## Texts without blanks -/

theorem Legible.spells_compact {levels : Nat} {v : Json} (h : Legible levels v) :
    Spells (compactChars v) (tokens v) := by
  induction h with
  | null => exact spells_null
  | bool b => exact spells_bool b
  | number h => exact spells_number h
  | string s => exact spells_string s
  | array _ ih =>
    have hwritten : Separated ',' compactChars compactItems := ⟨rfl, fun _ => rfl, fun _ _ _ => rfl⟩
    have hitems := spells_separated hwritten itemTokens_separated ih
    intro rest ts hrest h
    simp only [compactChars, tokens, List.cons_append, List.append_assoc, List.nil_append]
    exact .openArray (hitems (.cons (by decide) _) (.closeArray h))
  | object _ _ ih =>
    have hwritten : Separated ',' (fun m => quote m.1 ++ ':' :: compactChars m.2) compactMembers :=
      ⟨rfl, fun _ => rfl, fun _ _ _ => by simp [compactMembers]⟩
    have hmembers := spells_separated hwritten memberTokens_separated fun m hm rest ts hrest h => by
      rw [List.append_assoc]
      exact .string m.1 (.colon (ih m hm hrest h))
    intro rest ts hrest h
    simp only [compactChars, tokens, List.cons_append, List.append_assoc, List.nil_append]
    exact .openObject (hmembers (.cons (by decide) _) (.closeObject h))

/-! ## Texts on many lines -/

theorem Legible.spells_pretty {levels : Nat} {v : Json} (h : Legible levels v) (level : Nat) :
    Spells (prettyChars level v) (tokens v) := by
  induction h generalizing level with
  | null => exact spells_null
  | bool b => exact spells_bool b
  | number h => exact spells_number h
  | string s => exact spells_string s
  | @array _ items _ ih =>
    have hwritten : Separated ',' (fun v => lineBreak (level + 1) ++ prettyChars (level + 1) v)
        (prettyItems (level + 1)) :=
      ⟨rfl, fun _ => rfl, fun _ _ _ => by simp [prettyItems]⟩
    have hitems := spells_separated hwritten itemTokens_separated fun v hv rest ts hrest h => by
      rw [List.append_assoc]
      exact .lineBreak _ (ih v hv _ hrest h)
    intro rest ts hrest h
    cases items with
    | nil => exact .openArray (.closeArray h)
    | cons v items =>
      simp only [prettyChars, tokens, List.cons_append, List.append_assoc, List.nil_append]
      exact .openArray (hitems (apart_lineBreak level) (.lineBreak level (.closeArray h)))
  | @object _ members _ _ ih =>
    have hwritten : Separated ','
        (fun m => lineBreak (level + 1) ++ quote m.1 ++ ':' :: ' ' :: prettyChars (level + 1) m.2)
        (prettyMembers (level + 1)) :=
      ⟨rfl, fun _ => rfl, fun _ _ _ => by simp [prettyMembers]⟩
    have hmembers := spells_separated hwritten memberTokens_separated fun m hm rest ts hrest h => by
      rw [List.append_assoc, List.append_assoc]
      exact .lineBreak _ (.string m.1 (.colon (.blank (by decide) (ih m hm _ hrest h))))
    intro rest ts hrest h
    cases members with
    | nil => exact .openObject (.closeObject h)
    | cons m members =>
      simp only [prettyChars, tokens, List.cons_append, List.append_assoc, List.nil_append]
      exact .openObject (hmembers (apart_lineBreak level) (.lineBreak level (.closeObject h)))

/-! ## Round trips -/

theorem parse?_compact {v : Json} (h : Legible 127 v) : parse? (compact v) = some v :=
  parse?_of_lexed h h.spells_compact.lexed

theorem parse?_pretty {v : Json} (h : Legible 127 v) : parse? (pretty v) = some v :=
  parse?_of_lexed h (h.spells_pretty 0).lexed

theorem parseRaw?_compact {levels : Nat} {v : Json} (h : Legible levels v) : parseRaw? (compact v) = some v :=
  parseRaw?_of_lexed h h.spells_compact.lexed

theorem parseRaw?_pretty {levels : Nat} {v : Json} (h : Legible levels v) : parseRaw? (pretty v) = some v :=
  parseRaw?_of_lexed h (h.spells_pretty 0).lexed

end Fanout.Json
