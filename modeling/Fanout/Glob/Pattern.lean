import Fanout.Path.Basic

/-!
# Patterns for names

* `Glob.Token`, `Glob.Pattern` : `?` stands for one character, `*` for any number of them, `[ab]`
  and `[!a-c]` for one character in or out of a set, `**` as a whole component for any directories;
* `Pattern.ofText` : reads a pattern, or says where it goes wrong;
* `Pattern.covers` : whether a name has the form of a pattern.
-/

namespace Fanout.Glob

/-- A set of characters between two bounds. -/
structure Span where
  low : Char
  high : Char
  deriving Repr, DecidableEq

def Span.holds (s : Span) (c : Char) : Bool := s.low ≤ c && c ≤ s.high

inductive Token
  | char (c : Char)
  | one
  | any
  /-- Any directories on the way. -/
  | tree
  | within (spans : List Span)
  | except (spans : List Span)
  deriving Repr, DecidableEq

abbrev Pattern := List Token

inductive Reason
  /-- More than two stars in a row. -/
  | manyStars
  /-- Two stars that are not a whole component. -/
  | partStars
  /-- A bracket without its partner. -/
  | openSet
  deriving Repr, DecidableEq

/-- Why a text is no pattern, and before which of its characters. -/
structure Fault where
  position : Nat
  reason : Reason
  deriving Repr, DecidableEq

def Reason.message : Reason → String
  | .manyStars => "wildcards are either regular \x60*\x60 or recursive \x60**\x60"
  | .partStars => "recursive wildcards must form a single path component"
  | .openSet => "invalid range pattern"

def Fault.message (f : Fault) : String :=
  s!"Pattern syntax error near position {f.position}: " ++ f.reason.message

/-- The members of a set: a hyphen between two characters makes a range. -/
def spans : List Char → List Span
  | low :: '-' :: high :: rest => ⟨low, high⟩ :: spans rest
  | c :: rest => ⟨c, c⟩ :: spans rest
  | [] => []

/-- The characters of a set up to its closing bracket, the first of which may be a bracket too,
and what follows. -/
def setBody? : List Char → Option (List Char × List Char)
  | [] => none
  | first :: rest =>
    match rest.dropWhile (· != ']') with
    | [] => none
    | _ :: behind => some (first :: rest.takeWhile (· != ']'), behind)

def set? : List Char → Option (Token × List Char)
  | '!' :: rest => (setBody? rest).map fun (body, behind) => (.except (spans body), behind)
  | rest => (setBody? rest).map fun (body, behind) => (.within (spans body), behind)

theorem setBody?_length {cs body behind : List Char} (h : setBody? cs = some (body, behind)) :
    behind.length < cs.length := by
  match cs with
  | [] => simp [setBody?] at h
  | first :: rest =>
    have le := (List.dropWhile_sublist (l := rest) (· != ']')).length_le
    simp only [setBody?] at h
    split at h
    · simp at h
    · next e =>
      rw [e] at le
      simp only [Option.some.injEq, Prod.mk.injEq] at h
      simp only [← h.2, List.length_cons] at le ⊢
      omega

theorem set?_length {cs behind : List Char} {t : Token} (h : set? cs = some (t, behind)) :
    behind.length < cs.length := by
  unfold set? at h
  split at h
  all_goals
    obtain ⟨⟨body, more⟩, e, h⟩ := Option.map_eq_some_iff.1 h
    have := setBody?_length e
    grind

/-- Reads a pattern, with what stands before each character. A slash behind two stars belongs to
them, and two stars behind two stars add nothing. -/
def read (index : Nat) (before : Option Char) (out : List Token) (cs : List Char) :
    Except Fault Pattern :=
  match cs with
  | [] => .ok out.reverse
  | '?' :: rest => read (index + 1) (some '?') (.one :: out) rest
  | '[' :: rest =>
    match h : set? rest with
    | some (t, behind) => read (index + 1 + (rest.length - behind.length)) (some ']') (t :: out) behind
    | none => .error ⟨index, .openSet⟩
  | '*' :: '*' :: '*' :: _ => .error ⟨index + 2, .manyStars⟩
  | '*' :: '*' :: rest =>
    if before.isNone || before == some '/' then
      let out := if out.length > 1 && out.head? == some .tree then out else .tree :: out
      match rest with
      | [] => read (index + 2) (some '*') out []
      | '/' :: rest => read (index + 3) (some '/') out rest
      | _ => .error ⟨index + 2, .partStars⟩
    else .error ⟨index - 1, .partStars⟩
  | '*' :: rest => read (index + 1) (some '*') (.any :: out) rest
  | c :: rest => read (index + 1) (some c) (.char c :: out) rest
  termination_by cs.length
  decreasing_by
    all_goals try have := set?_length h
    all_goals simp only [List.length_cons, List.length_nil] at *
    all_goals omega

def Pattern.ofText (text : List Char) : Except Fault Pattern := read 0 none [] text

def Token.takes : Token → Char → Bool
  | .char d, c => c == d
  | .one, _ => true
  | .within s, c => s.any (·.holds c)
  | .except s, c => !s.any (·.holds c)
  | .any, _ | .tree, _ => false

/-- Whether a name has the form of a pattern. -/
def Pattern.covers : Pattern → List Char → Bool
  | [], name => name.isEmpty
  | t :: rest, name =>
    if t = .any || t = .tree then
      Pattern.covers rest name || match name with
        | [] => false
        | _ :: more => Pattern.covers (t :: rest) more
    else match name with
      | [] => false
      | c :: more => t.takes c && Pattern.covers rest more

/-- The text that a pattern stands for, if it stands for one alone. -/
def Pattern.literal? (p : Pattern) : Option (List Char) :=
  p.mapM fun
    | .char c => some c
    | _ => none

def Pattern.isTree (p : Pattern) : Bool := p.contains .tree

end Fanout.Glob
