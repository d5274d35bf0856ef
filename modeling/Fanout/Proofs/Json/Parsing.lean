import Mathlib.Data.List.Nodup
import Fanout.Proofs.Json.Numbers

/-!
# Values from tokens

* `tokens` : the tokens of a value, in the order in which they are written;
* `Legible n v` : a value that may be read back, with at most `n` levels of nesting: its numbers are read back,
  and no key stands twice in an object;
* `Legible.places` : the tokens of a legible value place it where a value is awaited, whatever is open around it;
* `parse?_of_lexed` : a text with the tokens of a legible value is read as the value.
-/

namespace Fanout.Json

mutual

def tokens : Json → List Token
  | .array items => .openArray :: (itemTokens items ++ [.closeArray])
  | .object members => .openObject :: (memberTokens members ++ [.closeObject])
  | v => [.scalar v]

def itemTokens : List Json → List Token
  | [] => []
  | [v] => tokens v
  | v :: w :: rest => tokens v ++ .comma :: itemTokens (w :: rest)

def memberTokens : List (String × Json) → List Token
  | [] => []
  | [(k, v)] => .scalar (.string k) :: .colon :: tokens v
  | (k, v) :: m :: rest =>
    .scalar (.string k) :: .colon :: (tokens v ++ .comma :: memberTokens (m :: rest))

end

inductive Legible : Nat → Json → Prop
  | null {n : Nat} : Legible n .null
  | bool {n : Nat} (b : Bool) : Legible n (.bool b)
  | number {n : Nat} {x : Number} (h : x.ReadsBack) : Legible n (.number x)
  | string {n : Nat} (s : String) : Legible n (.string s)
  | array {n : Nat} {items : List Json} (h : ∀ v ∈ items, Legible n v) : Legible (n + 1) (.array items)
  | object {n : Nat} {members : List (String × Json)} (keys : (members.map Prod.fst).Nodup)
      (h : ∀ m ∈ members, Legible n m.2) : Legible (n + 1) (.object members)

theorem Legible.mono {n levels : Nat} {v : Json} (h : Legible n v) (hn : n ≤ levels) : Legible levels v := by
  induction h generalizing levels with
  | null => exact .null
  | bool b => exact .bool b
  | number h => exact .number h
  | string s => exact .string s
  | array _ ih =>
    obtain ⟨levels, rfl⟩ := Nat.exists_eq_add_of_le' (Nat.le_of_add_left_le hn)
    exact .array fun v hv => ih v hv (by omega)
  | object keys _ ih =>
    obtain ⟨levels, rfl⟩ := Nat.exists_eq_add_of_le' (Nat.le_of_add_left_le hn)
    exact .object keys fun m hm => ih m hm (by omega)

/-! ## Members with distinct keys -/

theorem insert_of_not_mem {members : List (String × Json)} {key : String} (h : key ∉ members.map Prod.fst)
    (v : Json) : insert members key v = members ++ [(key, v)] := by
  induction members with
  | nil => rfl
  | cons m rest ih =>
    rw [List.map_cons, List.mem_cons, not_or] at h
    rw [insert, if_neg (Ne.symm h.1), ih h.2, List.cons_append]

theorem foldl_insert {seen members : List (String × Json)} (h : ((seen ++ members).map Prod.fst).Nodup) :
    members.foldl (fun seen m => insert seen m.1 m.2) seen = seen ++ members := by
  induction members generalizing seen with
  | nil => simp
  | cons m rest ih =>
    have hm : m.1 ∉ seen.map Prod.fst := by
      rw [List.map_append, List.map_cons, List.nodup_append] at h
      exact fun hmem => h.2.2 _ hmem _ List.mem_cons_self rfl
    have hsplit : seen ++ m :: rest = seen ++ [(m.1, m.2)] ++ rest := by simp
    rw [List.foldl_cons, insert_of_not_mem hm, hsplit]
    exact ih (hsplit ▸ h)

theorem distinct_of_nodup {members : List (String × Json)} (h : (members.map Prod.fst).Nodup) :
    distinct members = members :=
  foldl_insert (by simpa using h)

namespace Partial

variable {how : Reading}

/-- With distinct keys it does not matter whether a reading is strict. -/
theorem closeObject_reverse {members : List (String × Json)} (h : (members.map Prod.fst).Nodup) :
    closeObject how members.reverse = .object members := by
  rw [closeObject, List.reverse_reverse, distinct_of_nodup h, ite_self]

/-! ## Runs of tokens -/

theorem run_cons {p q : Partial} {t : Token} (h : step how p t = some q) (ts : List Token) :
    (t :: ts).foldlM (step how) p = ts.foldlM (step how) q := by
  rw [List.foldlM_cons, h]
  rfl

theorem run_append {p q : Partial} {ts : List Token} (h : ts.foldlM (step how) p = some q)
    (us : List Token) : (ts ++ us).foldlM (step how) p = us.foldlM (step how) q := by
  rw [List.foldlM_append, h]
  rfl

def AwaitsValue (a : Awaits) : Prop := a = .value ∨ a = .valueOrClose

def AwaitsKey (a : Awaits) : Prop := a = .key ∨ a = .keyOrClose

theorem step_value {a : Awaits} (ha : AwaitsValue a) (stack : List Open) {t : Token}
    (ht : t ≠ .closeArray) : step how ⟨a, stack, none⟩ t = value? how stack t := by
  obtain rfl | rfl := ha
  · rfl
  · cases t <;> first | rfl | exact absurd rfl ht

theorem step_key {a : Awaits} (ha : AwaitsKey a) (members : List (String × Json)) (key k : String)
    (stack : List Open) :
    step how ⟨a, .object members key :: stack, none⟩ (.scalar (.string k)) =
      some ⟨.colon, .object members k :: stack, none⟩ := by
  obtain rfl | rfl := ha <;> rfl

/-- Whether a number of open arrays and objects is within the limit. -/
def Fits (how : Reading) (levels : Nat) : Prop := ∀ d ∈ how.maxDepth, levels ≤ d

theorem Fits.mono {n levels : Nat} (h : Fits how levels) (hn : n ≤ levels) : Fits how n := fun d hd =>
  Nat.le_trans hn (h d hd)

theorem push?_eq {stack : List Open} (h : Fits how (stack.length + 1)) (o : Open) (awaits : Awaits) :
    push? how stack o awaits = some ⟨awaits, o :: stack, none⟩ := by
  refine if_pos ?_
  rw [Option.all_eq_true]
  exact fun d hd => decide_eq_true (h d hd)

/-- The tokens of a value with some levels of nesting place it where a value is awaited. -/
def Places (how : Reading) (levels : Nat) (v : Json) : Prop :=
  ∀ (stack : List Open) (a : Awaits), AwaitsValue a → Fits how (stack.length + levels) →
    (tokens v).foldlM (step how) ⟨a, stack, none⟩ = some (place stack v)

theorem places_scalar {v : Json} (htokens : tokens v = [.scalar v])
    (hv : ∀ stack, value? how stack (.scalar v) = some (place stack v)) (levels : Nat) :
    Places how levels v := by
  intro stack a ha _
  rw [htokens, run_cons ((step_value ha stack (by simp)).trans (hv stack))]
  rfl

section
variable {levels : Nat} {stack : List Open} (hfits : Fits how (stack.length + 1 + levels))
include hfits

theorem run_items {items : List Json} (hne : items ≠ []) (each : ∀ v ∈ items, Places how levels v)
    {a : Awaits} (ha : AwaitsValue a) (done : List Json) :
    (itemTokens items).foldlM (step how) ⟨a, .array done :: stack, none⟩ =
      some ⟨.commaOrClose, .array (items.reverse ++ done) :: stack, none⟩ := by
  induction items generalizing a done with
  | nil => exact absurd rfl hne
  | cons v rest ih =>
    obtain ⟨hv, hrest⟩ := List.forall_mem_cons.1 each
    have hrun := hv (.array done :: stack) a ha hfits
    cases rest with
    | nil => exact hrun
    | cons w rest =>
      -- Behind a comma only a value may stand, so the state that the rest begins in differs from the first.
      have hcomma : step how (place (.array done :: stack) v) .comma =
          some ⟨.value, .array (v :: done) :: stack, none⟩ := rfl
      rw [itemTokens, run_append hrun, run_cons hcomma, ih (by simp) hrest (.inl rfl)]
      simp

theorem run_members {members : List (String × Json)} (hne : members ≠ [])
    (each : ∀ m ∈ members, Places how levels m.2) {a : Awaits} (ha : AwaitsKey a)
    (done : List (String × Json)) (key : String) :
    ∃ last, (memberTokens members).foldlM (step how) ⟨a, .object done key :: stack, none⟩ =
      some ⟨.commaOrClose, .object (members.reverse ++ done) last :: stack, none⟩ := by
  induction members generalizing a done key with
  | nil => exact absurd rfl hne
  | cons m rest ih =>
    obtain ⟨k, v⟩ := m
    obtain ⟨hv, hrest⟩ := List.forall_mem_cons.1 each
    have hkey : step how ⟨a, .object done key :: stack, none⟩ (.scalar (.string k)) =
        some ⟨.colon, .object done k :: stack, none⟩ := step_key ha done key k stack
    have hcolon : step how ⟨.colon, .object done k :: stack, none⟩ .colon =
        some ⟨.value, .object done k :: stack, none⟩ := rfl
    have hrun := hv (.object done k :: stack) .value (.inl rfl) hfits
    cases rest with
    | nil =>
      refine ⟨k, ?_⟩
      rw [memberTokens, run_cons hkey, run_cons hcolon]
      exact hrun
    | cons m rest =>
      have hcomma : step how (place (.object done k :: stack) v) .comma =
          some ⟨.key, .object ((k, v) :: done) k :: stack, none⟩ := rfl
      obtain ⟨last, hlast⟩ := ih (by simp) hrest (.inl rfl) ((k, v) :: done) k
      refine ⟨last, ?_⟩
      rw [memberTokens, run_cons hkey, run_cons hcolon, run_append hrun, run_cons hcomma, hlast]
      simp

end

theorem places_array {items : List Json} {levels : Nat} (each : ∀ v ∈ items, Places how levels v) :
    Places how (levels + 1) (.array items) := by
  intro stack a ha hfits
  have hfits : Fits how (stack.length + 1 + levels) := hfits.mono (by omega)
  have hopen : step how ⟨a, stack, none⟩ .openArray = some ⟨.valueOrClose, .array [] :: stack, none⟩ := by
    rw [step_value ha stack (by simp), value?, push?_eq (hfits.mono (by omega))]
  rw [tokens, run_cons hopen]
  by_cases hne : items = []
  · subst hne
    rfl
  · have hitems := run_items hfits hne each (.inr rfl) []
    have hclose : step how ⟨.commaOrClose, .array items.reverse :: stack, none⟩ .closeArray =
        some (place stack (.array items)) := by
      simp only [step, close?, List.reverse_reverse]
    rw [List.append_nil] at hitems
    rw [run_append hitems, run_cons hclose]
    rfl

theorem places_object {members : List (String × Json)} {levels : Nat}
    (keys : (members.map Prod.fst).Nodup) (each : ∀ m ∈ members, Places how levels m.2) :
    Places how (levels + 1) (.object members) := by
  intro stack a ha hfits
  have hfits : Fits how (stack.length + 1 + levels) := hfits.mono (by omega)
  have hopen : step how ⟨a, stack, none⟩ .openObject = some ⟨.keyOrClose, .object [] "" :: stack, none⟩ := by
    rw [step_value ha stack (by simp), value?, push?_eq (hfits.mono (by omega))]
  have hclosed : closeObject how members.reverse = .object members := closeObject_reverse keys
  rw [tokens, run_cons hopen]
  by_cases hne : members = []
  · subst hne
    rw [memberTokens, List.nil_append]
    refine run_cons ?_ []
    exact congrArg (fun v => some (place stack v)) hclosed
  · obtain ⟨last, hmembers⟩ := run_members hfits hne each (.inr rfl) [] ""
    have hclose : step how ⟨.commaOrClose, .object members.reverse last :: stack, none⟩ .closeObject =
        some (place stack (.object members)) := by
      simp only [step, close?, hclosed]
    rw [List.append_nil] at hmembers
    rw [run_append hmembers, run_cons hclose]
    rfl

end Partial

open Partial

/-- The tokens of a legible value place it where a value is awaited. -/
theorem Legible.places {how : Reading} {levels : Nat} {v : Json} (h : Legible levels v) :
    Places how levels v := by
  induction h with
  | null | bool | number | string => exact places_scalar rfl (fun _ => rfl) _
  | array _ ih => exact places_array ih
  | object keys _ ih => exact places_object keys ih

/-- A text with the tokens of a legible value is read as the value. -/
theorem parseWith?_of_lexed {how : Reading} {levels : Nat} (hfits : Fits how levels) {v : Json}
    (h : Legible levels v) {cs : List Char} (hcs : Lexed cs (tokens v)) : parseWith? how cs = some v := by
  rw [parseWith?, read_lexed how hcs .start (Nat.le_refl _), Partial.start,
    h.places [] .value (.inl rfl) (hfits.mono (by simp))]
  rfl

theorem parse?_of_lexed {v : Json} (h : Legible 127 v) {cs : List Char} (hcs : Lexed cs (tokens v)) :
    parse? (String.ofList cs) = some v := by
  rw [parse?, String.toList_ofList]
  exact parseWith?_of_lexed (by rintro _ ⟨⟩; exact Nat.le_refl _) h hcs

theorem parseRaw?_of_lexed {levels : Nat} {v : Json} (h : Legible levels v) {cs : List Char}
    (hcs : Lexed cs (tokens v)) : parseRaw? (String.ofList cs) = some v := by
  rw [parseRaw?, String.toList_ofList]
  exact parseWith?_of_lexed (by rintro _ ⟨⟩) h hcs

end Fanout.Json
