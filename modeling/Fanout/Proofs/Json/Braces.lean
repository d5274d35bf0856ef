import Fanout.Proofs.Json.Lexing

/-!
# Texts that begin with an opening brace

* `Rooted stack` : the outermost of what is open is an object;
* `OfObject p` : what has been read is the beginning of an object, or a whole one. Every token keeps it;
* `eq_object_of_parse?` : a text that begins with an opening brace is read as an object, if it is read at all.
-/

namespace Fanout.Json

/-- The outermost of what is open is an object. -/
inductive Rooted : List Open → Prop
  | root (members : List (String × Json)) (key : String) : Rooted [.object members key]
  | inside (o : Open) {stack : List Open} (h : Rooted stack) : Rooted (o :: stack)

/-- What has been read is the beginning of an object, or a whole one. -/
inductive OfObject : Partial → Prop
  | opened (a : Awaits) {stack : List Open} (h : Rooted stack) : OfObject ⟨a, stack, none⟩
  | closed (members : List (String × Json)) : OfObject ⟨.nothing, [], some (.object members)⟩

namespace Partial

variable {how : Reading}

theorem ofObject_place {stack : List Open} (h : Rooted stack) (v : Json) : OfObject (place stack v) := by
  cases h with
  | root members key => exact .opened _ (.root _ _)
  | inside o h =>
    cases o with
    | array items => exact .opened _ (.inside _ h)
    | object members key => exact .opened _ (.inside _ h)

theorem ofObject_push? {stack : List Open} (h : Rooted stack) {o : Open} {a : Awaits} {q : Partial}
    (hq : push? how stack o a = some q) : OfObject q := by
  unfold push? at hq
  split_ifs at hq
  cases hq
  exact .opened a (.inside o h)

theorem ofObject_value? {stack : List Open} (h : Rooted stack) {t : Token} {q : Partial}
    (hq : value? how stack t = some q) : OfObject q := by
  unfold value? at hq
  split at hq
  · exact ofObject_push? h hq
  · exact ofObject_push? h hq
  · split_ifs at hq
    cases hq
    exact ofObject_place h _
  · cases hq
    exact ofObject_place h _
  · cases hq

/-- What is closed last is the outermost object. -/
theorem ofObject_close? {stack : List Open} (h : Rooted stack) {t : Token} {q : Partial}
    (hq : close? how stack t = some q) : OfObject q := by
  cases h with
  | root members key =>
    cases t <;> cases hq
    exact .closed _
  | inside o h =>
    cases t <;> cases o <;> cases hq
    · exact ofObject_place h _
    · exact ofObject_place h _

theorem ofObject_key? {stack : List Open} (h : Rooted stack) {t : Token} {q : Partial}
    (hq : key? stack t = some q) : OfObject q := by
  unfold key? at hq
  split at hq
  case h_2 => cases hq
  cases h with
  | root members key =>
    cases hq
    exact .opened _ (.root _ _)
  | inside o h =>
    cases o <;> cases hq
    exact .opened _ (.inside _ h)

theorem ofObject_step {p q : Partial} (h : OfObject p) {t : Token} (hq : step how p t = some q) :
    OfObject q := by
  cases h with
  | closed members => cases hq
  | @opened a stack h =>
    obtain hq | hq | hq | ⟨b, rfl⟩ := step_cases hq
    · exact ofObject_value? h hq
    · exact ofObject_close? h hq
    · exact ofObject_key? h hq
    · exact .opened b h

theorem ofObject_read {p q : Partial} (h : OfObject p) {fuel : Nat} {cs : List Char}
    (hq : read how fuel p cs = some q) : OfObject q :=
  read_keeps (fun _ _ _ _ _ _ hp _ hstep => ofObject_step hp hstep) h hq

end Partial

open Partial

theorem eq_object_of_parseWith? {how : Reading} {cs : List Char} {v : Json}
    (h : parseWith? how ('{' :: cs) = some v) : ∃ members, v = .object members := by
  obtain ⟨q, hq, hwhole⟩ := Option.bind_eq_some_iff.1 h
  have hopen : read how ('{' :: cs).length start ('{' :: cs) =
      (push? how [] (.object [] "") .keyOrClose).bind fun p => read how cs.length p cs := by
    rw [List.length_cons, Partial.read, if_neg (by decide), show Token.next? '{' cs = some (.openObject, cs) from rfl]
    dsimp only
    rw [show step how start .openObject = push? how [] (.object [] "") .keyOrClose from rfl]
    cases push? how [] (.object [] "") .keyOrClose <;> rfl
  rw [hopen] at hq
  obtain ⟨p, hp, hq⟩ := Option.bind_eq_some_iff.1 hq
  have hobject : OfObject p := by
    unfold push? at hp
    split_ifs at hp
    cases hp
    exact .opened _ (.root _ _)
  cases ofObject_read hobject hq with
  | opened a h => cases hwhole
  | closed members => exact ⟨members, (Option.some.inj hwhole).symm⟩

/-- A text that begins with an opening brace is read as an object, if it is read at all. -/
theorem eq_object_of_parse? {text : String} {cs : List Char} (hbrace : text.toList = '{' :: cs) {v : Json}
    (h : parse? text = some v) : ∃ members, v = .object members := by
  rw [parse?, hbrace] at h
  exact eq_object_of_parseWith? h

end Fanout.Json
