import Fanout.Proofs.Decimal.Range
import Fanout.Proofs.Json.Lexing

/-!
# Numbers in JSON texts are finite

* `Number.Finite` : an integer of 64 bits, or a finite double; `Number.finite_ofText?` : so is what a spelling
  stands for, however many digits it has and however large its exponent is;
* `Json.Finite` : a value in which every number is finite, at whatever depth it stands;
* `Partial.Finite` : the same of what has been read so far. Every token keeps it (`Partial.finite_step`), and
  so does a whole text (`Partial.finite_read`);
* `finite_parse?` : a text is read as a value in which every number is finite.
-/

namespace Fanout.Json

/-! ## Spellings -/

/-- What does not fit on a significand is only counted. -/
theorem readDigits_lt {n : Nat} (h : n < UInt64.size) (cs : List Char) : (readDigits n cs).1 < UInt64.size := by
  induction cs generalizing n with
  | nil => exact h
  | cons c cs ih =>
    simp only [readDigits]
    split
    · next hnext => exact ih hnext
    · exact h

theorem within_significand {n : Nat} (h : n < UInt64.size) : Within 118 (Float.ofScientific n false 0) :=
  within_ofScientific (Nat.lt_trans h (by decide)) (Nat.le_refl _) (by decide)

/-- A quotient by a number that is not below one may be rounded up, at each of the steps. -/
theorem within_divideByPower {steps : Nat} {top : Int} {x : Float} (hx : Within top x) (hlow : -1073 ≤ top)
    (hhigh : top + steps ≤ 971) (e : Nat) : Within (top + steps) (divideByPower steps x e) := by
  induction steps generalizing top x e with
  | zero => exact hx.mono (by omega)
  | succ steps ih =>
    have hquotient {y : Float} (hy : AtLeast (-52) y) : Within (top + 1) (x / y) :=
      hx.div hy (Int.le_refl _) (by omega) (by omega)
    rw [divideByPower]
    split_ifs with he hzero
    · exact (hquotient (powerOfTen_large he).2).mono (by omega)
    · exact hx.mono (by omega)
    · have hrest := ih (hquotient (powerOfTen_large (Nat.le_refl 308)).2) (by omega) (by omega) (e - 308)
      exact hrest.mono (by omega)

theorem isFinite_ofParts? {n : Nat} {e : Int} {x : Float} (hn : n < UInt64.size)
    (h : ofParts? n e = some x) : x.isFinite = true := by
  have hvalue := within_significand hn
  simp only [ofParts?] at h
  split_ifs at h with hneg hhigh hinf hzero
  · cases h
    exact (within_divideByPower hvalue (by decide) (by decide) e.natAbs).isFinite
  · cases h
    have hpower := (powerOfTen_large (show e.toNat ≤ 308 by omega)).1
    exact isFinite_mul hvalue.isFinite hpower.isFinite (by simpa using hinf)
  · cases h
    exact hvalue.isFinite

theorem isFinite_readFraction? {n : Nat} {e : Int} {cs : List Char} {x : Float} (hn : n < UInt64.size)
    (h : readFraction? n e cs = some x) : x.isFinite = true := by
  unfold readFraction? at h
  split at h
  split at h
  next digits tail _ _ significand exponent hparts =>
    -- Digits behind a point are read onto the same significand.
    have hm : significand < UInt64.size := by
      cases digits with
      | none =>
        cases hparts
        exact hn
      | some ds =>
        cases hparts
        exact readDigits_lt hn ds
    split_ifs at h
    split at h
    · exact isFinite_ofParts? hm h
    · split_ifs at h
      obtain ⟨k, -, hread⟩ := Option.bind_eq_some_iff.1 h
      exact isFinite_ofParts? hm hread

/-- An integer of 64 bits, or a finite double. -/
def Number.Finite : Number → Prop
  | .nat n => n < UInt64.size
  | .neg n => n < UInt64.size
  | .float x => x.isFinite = true

namespace Number

theorem Finite.toFloat {n : Number} (h : n.Finite) : n.toFloat.isFinite = true := by
  cases n with
  | nat n => exact (within_significand h).isFinite
  | neg n => exact ((within_significand h).neg (by decide) (by decide)).isFinite
  | float x => exact h

theorem Finite.negate {n : Number} (h : n.Finite) : (ofText?.negate n).Finite := by
  have hneg {x : Float} (hx : x.isFinite = true) : (-x).isFinite = true :=
    ((within_of_isFinite hx).neg (by decide) (by decide)).isFinite
  cases n with
  | nat n =>
    simp only [ofText?.negate]
    split_ifs
    · exact h
    · exact hneg (within_significand h).isFinite
  | neg n => exact h
  | float x => exact hneg h

theorem finite_readMagnitude? {cs : List Char} {n : Number} (h : readMagnitude? cs = some (some n)) :
    n.Finite := by
  have hsignificand := readDigits_lt (n := 0) (by decide) (cs.takeWhile isDigit)
  simp only [readMagnitude?] at h
  split_ifs at h
  · cases h
    exact hsignificand
  · obtain ⟨x, hx, rfl⟩ := Option.map_eq_some_iff.1 (Option.some.inj h)
    exact isFinite_readFraction? hsignificand hx

/-- Whatever a number's spelling stands for is finite. -/
theorem finite_ofText? {cs : List Char} {n : Number} (h : ofText? cs = some (some n)) : n.Finite := by
  unfold ofText? at h
  split at h
  · obtain ⟨v, hv, hn⟩ := Option.map_eq_some_iff.1 h
    obtain ⟨m, rfl, rfl⟩ := Option.map_eq_some_iff.1 hn
    exact (finite_readMagnitude? hv).negate
  · exact finite_readMagnitude? h

end Number

/-! ## Values -/

/-- A value in which every number is finite. -/
inductive Finite : Json → Prop
  | null : Finite .null
  | bool (b : Bool) : Finite (.bool b)
  | number {n : Number} (h : n.Finite) : Finite (.number n)
  | string (s : String) : Finite (.string s)
  | array {items : List Json} (h : ∀ v ∈ items, Finite v) : Finite (.array items)
  | object {members : List (String × Json)} (h : ∀ m ∈ members, Finite m.2) : Finite (.object members)
  | unreadable : Finite .unreadable

theorem finite_wordValue? {cs : List Char} {v : Json} (h : wordValue? cs = some v) : v.Finite := by
  unfold wordValue? at h
  split_ifs at h
  · cases h
    exact .null
  · cases h
    exact .bool true
  · cases h
    exact .bool false
  · obtain ⟨n, hn, rfl⟩ := Option.map_eq_some_iff.1 h
    cases n with
    | none => exact .unreadable
    | some n => exact .number (Number.finite_ofText? hn)

def Token.Finite (t : Token) : Prop := ∀ v, t = .scalar v → v.Finite

theorem Token.finite_next? {c : Char} {cs rest : List Char} {t : Token}
    (h : Token.next? c cs = some (t, rest)) : t.Finite := by
  rintro v rfl
  unfold Token.next? at h
  split at h
  case h_7 =>
    obtain ⟨⟨s, r⟩, -, heq⟩ := Option.map_eq_some_iff.1 h
    cases heq
    cases s with
    | none => exact .unreadable
    | some s => exact .string _
  case h_8 =>
    split_ifs at h
    obtain ⟨w, hw, heq⟩ := Option.map_eq_some_iff.1 h
    cases heq
    exact finite_wordValue? hw
  all_goals cases h

theorem mem_insert {members : List (String × Json)} {key : String} {v : Json} {m : String × Json}
    (h : m ∈ insert members key v) : m ∈ members ∨ m.2 = v := by
  induction members with
  | nil => exact .inr (congrArg Prod.snd (List.mem_singleton.1 h))
  | cons x rest ih =>
    rw [insert] at h
    split_ifs at h with hkey
    · obtain rfl | hrest := List.mem_cons.1 h
      · exact .inr rfl
      · exact .inl (List.mem_cons_of_mem _ hrest)
    · obtain rfl | hrest := List.mem_cons.1 h
      · exact .inl List.mem_cons_self
      · exact (ih hrest).imp_left (List.mem_cons_of_mem _)

theorem mem_foldl_insert {seen members : List (String × Json)} {m : String × Json}
    (h : m ∈ members.foldl (fun seen m => insert seen m.1 m.2) seen) :
    m ∈ seen ∨ ∃ m' ∈ members, m.2 = m'.2 := by
  induction members generalizing seen with
  | nil => exact .inl h
  | cons x rest ih =>
    obtain hseen | ⟨m', hm', heq⟩ := ih h
    · obtain hold | hnew := mem_insert hseen
      · exact .inl hold
      · exact .inr ⟨x, List.mem_cons_self, hnew⟩
    · exact .inr ⟨m', List.mem_cons_of_mem _ hm', heq⟩

/-- Every value under distinct keys stood among the members. -/
theorem mem_distinct {members : List (String × Json)} {m : String × Json} (h : m ∈ distinct members) :
    ∃ m' ∈ members, m.2 = m'.2 :=
  (mem_foldl_insert h).resolve_left List.not_mem_nil

/-! ## What has been read -/

/-- What is open holds finite numbers. -/
inductive Open.Finite : Open → Prop
  | array {items : List Json} (h : ∀ v ∈ items, v.Finite) : Open.Finite (.array items)
  | object {members : List (String × Json)} (h : ∀ m ∈ members, m.2.Finite) (key : String) :
    Open.Finite (.object members key)

/-- What has been read holds finite numbers. -/
structure Partial.Finite (p : Partial) : Prop where
  stack : ∀ o ∈ p.stack, o.Finite
  whole : ∀ v, p.whole = some v → v.Finite

namespace Partial

variable {how : Reading} {stack : List Open}

theorem finite_opened (h : ∀ o ∈ stack, o.Finite) (a : Awaits) : Partial.Finite ⟨a, stack, none⟩ :=
  ⟨h, nofun⟩

theorem finite_place (h : ∀ o ∈ stack, o.Finite) {v : Json} (hv : v.Finite) : (place stack v).Finite := by
  cases stack with
  | nil =>
    refine ⟨h, ?_⟩
    rintro _ ⟨⟩
    exact hv
  | cons o rest =>
    obtain ⟨ho, hrest⟩ := List.forall_mem_cons.1 h
    cases ho with
    | array hitems =>
      exact finite_opened (List.forall_mem_cons.2 ⟨.array (List.forall_mem_cons.2 ⟨hv, hitems⟩), hrest⟩) _
    | object hmembers key =>
      have hnew : ∀ m ∈ (key, v) :: _, m.2.Finite := List.forall_mem_cons.2 ⟨hv, hmembers⟩
      exact finite_opened (List.forall_mem_cons.2 ⟨.object hnew key, hrest⟩) _

theorem finite_push? (h : ∀ o ∈ stack, o.Finite) {o : Open} (ho : o.Finite) {a : Awaits} {q : Partial}
    (hq : push? how stack o a = some q) : q.Finite := by
  unfold push? at hq
  split_ifs at hq
  cases hq
  exact finite_opened (List.forall_mem_cons.2 ⟨ho, h⟩) a

theorem finite_value? (h : ∀ o ∈ stack, o.Finite) {t : Token} (ht : t.Finite) {q : Partial}
    (hq : value? how stack t = some q) : q.Finite := by
  unfold value? at hq
  split at hq
  · exact finite_push? h (.array (List.forall_mem_nil _)) hq
  · exact finite_push? h (.object (List.forall_mem_nil _) _) hq
  · split_ifs at hq
    cases hq
    exact finite_place h .unreadable
  · cases hq
    exact finite_place h (ht _ rfl)
  · cases hq

theorem finite_closeObject {members : List (String × Json)} (h : ∀ m ∈ members, m.2.Finite) :
    (closeObject how members).Finite := by
  have hreverse : ∀ m ∈ members.reverse, m.2.Finite := fun m hm => h m (List.mem_reverse.1 hm)
  refine .object fun m hm => ?_
  split_ifs at hm
  · obtain ⟨m', hm', heq⟩ := mem_distinct hm
    rw [heq]
    exact hreverse m' hm'
  · exact hreverse m hm

theorem finite_close? (h : ∀ o ∈ stack, o.Finite) {t : Token} {q : Partial}
    (hq : close? how stack t = some q) : q.Finite := by
  cases stack with
  | nil => cases t <;> cases hq
  | cons o rest =>
    obtain ⟨ho, hrest⟩ := List.forall_mem_cons.1 h
    cases t <;> cases ho <;> cases hq
    case closeArray.array.refl hitems =>
      exact finite_place hrest (.array fun v hv => hitems v (List.mem_reverse.1 hv))
    case closeObject.object.refl hmembers _ => exact finite_place hrest (finite_closeObject hmembers)

theorem finite_key? (h : ∀ o ∈ stack, o.Finite) {t : Token} {q : Partial} (hq : key? stack t = some q) :
    q.Finite := by
  unfold key? at hq
  split at hq
  case h_2 => cases hq
  cases stack with
  | nil => cases hq
  | cons o rest =>
    obtain ⟨ho, hrest⟩ := List.forall_mem_cons.1 h
    cases ho <;> cases hq
    case object.refl hmembers _ => exact finite_opened (List.forall_mem_cons.2 ⟨.object hmembers _, hrest⟩) _

/-- Every token keeps numbers finite. -/
theorem finite_step {p q : Partial} (h : p.Finite) {t : Token} (ht : t.Finite)
    (hq : step how p t = some q) : q.Finite := by
  obtain hq | hq | hq | ⟨a, rfl⟩ := step_cases hq
  · exact finite_value? h.stack ht hq
  · exact finite_close? h.stack hq
  · exact finite_key? h.stack hq
  · exact finite_opened h.stack a

theorem finite_read {p q : Partial} (h : p.Finite) {fuel : Nat} {cs : List Char}
    (hq : read how fuel p cs = some q) : q.Finite :=
  read_keeps (fun _ _ _ _ _ _ hp hnext hstep => finite_step hp (Token.finite_next? hnext) hstep) h hq

end Partial

/-- A text is read as a value in which every number is finite. -/
theorem finite_parse? {text : String} {v : Json} (h : parse? text = some v) : v.Finite := by
  obtain ⟨q, hq, hwhole⟩ := Option.bind_eq_some_iff.1 h
  have hstart : Partial.start.Finite := Partial.finite_opened (List.forall_mem_nil _) _
  exact (Partial.finite_read hstart hq).whole v hwhole

theorem Finite.get? {v w : Json} {key : String} (h : v.Finite) (hw : v.get? key = some w) : w.Finite := by
  cases h with
  | object hmembers =>
    obtain ⟨m, hm, rfl⟩ := Option.map_eq_some_iff.1 hw
    exact hmembers m (List.mem_of_find?_eq_some hm)
  | null => cases hw
  | bool b => cases hw
  | number h => cases hw
  | string s => cases hw
  | array h => cases hw
  | unreadable => cases hw

end Fanout.Json
