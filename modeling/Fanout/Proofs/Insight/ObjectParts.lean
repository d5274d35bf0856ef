import Fanout.Proofs.Insight.Figures
import Fanout.Proofs.Insight.ObjectReply

/-!
# The parts of an object reply

* `GivesFigure` : the figure that a value gives, whatever it is;
* `Decodes`, `ListedUnder` : a list whose elements are read one by one, and the list that a value gives, which is
  empty if any element cannot be read;
* `Insight.ofObjectReply_parts` : each part of an insight depends on its own member and on nothing else.
-/

namespace Fanout
open Json

/-! ## Figures -/

/-- The figure that a value gives: a number itself, a text the finite number that it spells. Anything else gives
zero, and so does a member that is absent. -/
inductive GivesFigure : Option Json → Float → Prop
  | number (n : Number) : GivesFigure (some (.number n)) n.toFloat
  | text {s : String} {x : Float} (h : SpellsFigure s.toList x) : GivesFigure (some (.string s)) x
  | nothing {v : Option Json} (hnumber : ∀ n, v ≠ some (.number n))
      (htext : ∀ s x, v = some (.string s) → ¬SpellsFigure s.toList x) : GivesFigure v 0

theorem givesFigure_figureMember (v : Json) (key : String) : GivesFigure (v.get? key) (figureMember v key) := by
  unfold figureMember
  split
  · next n h =>
    rw [h]
    exact .number n
  · next s h =>
    rw [h]
    by_cases hspells : ∃ x, SpellsFigure s.toList x
    · obtain ⟨x, hx⟩ := hspells
      rw [figureOfText_of_spells hx]
      exact .text hx
    · rw [figureOfText_of_not_spells fun x hx => hspells ⟨x, hx⟩]
      refine .nothing nofun fun s' x hs hx => hspells ⟨x, ?_⟩
      cases hs
      exact hx
  · next hnumber hstring => exact .nothing hnumber fun s x hs => absurd hs (hstring s)

/-- The keys of the figures, in the order of `Insight.figures`. -/
def figureKeys : List String :=
  ["loadTimeImpact", "databaseEfficiency", "networkOptimization", "potentialImprovement"]

theorem figures_ofObject (v : Json) : (Insight.ofObject v).figures = figureKeys.map (figureMember v) := rfl

/-! ## Lists -/

/-- The value is a list, and each of its elements is read as an issue, in the order of the list. -/
def Decodes (v : Json) (issues : List Issue) : Prop :=
  ∃ items, v = .array items ∧ List.Forall₂ (fun item i => Issue.ofJson? item = some i) items issues

/-- The issues that a value gives: all that it lists, or none if it cannot be read as a whole or is absent. -/
inductive ListedUnder : Option Json → List Issue → Prop
  | whole {v : Json} {issues : List Issue} (h : Decodes v issues) : ListedUnder (some v) issues
  | nothing {v : Option Json} (h : ∀ w issues, v = some w → ¬Decodes w issues) : ListedUnder v []

/-- The member that lists the issues: the one under the second key counts only where the first key is absent. -/
def listMember (members : List (String × Json)) : Option Json :=
  (lookup "issues" members).or (lookup "additionalIssues" members)

theorem decodes_iff {v : Json} {issues : List Issue} :
    Decodes v issues ↔ list? Issue.ofJson? v = some issues := by
  constructor
  · rintro ⟨items, rfl, h⟩
    exact mapM_eq_some_iff.2 h
  · intro h
    unfold list? at h
    split at h
    · next items => exact ⟨items, rfl, mapM_eq_some_iff.1 h⟩
    · cases h

theorem issueMember_eq (members : List (String × Json)) :
    issueMember (.object members) = ((listMember members).bind (list? Issue.ofJson?)).getD [] := by
  unfold issueMember listMember
  cases h : lookup "issues" members with
  | none => simp only [get?, h, Option.none_or]
  | some v => simp only [get?, h, Option.some_or]

theorem listedUnder_issueMember (members : List (String × Json)) :
    ListedUnder (listMember members) (issueMember (.object members)) := by
  rw [issueMember_eq]
  cases hlist : listMember members with
  | none => exact .nothing nofun
  | some v =>
    rw [Option.bind_some]
    cases hread : list? Issue.ofJson? v with
    | some issues => exact .whole (decodes_iff.2 hread)
    | none =>
      refine .nothing fun w issues hw hdecodes => ?_
      cases hw
      rw [decodes_iff, hread] at hdecodes
      cases hdecodes

/-! ## The whole reply -/

namespace Insight

/-- What a reply says. If an object stands between the outermost braces, each figure is what the member under its
key gives, and the issues are those of the list, all of them or none. So two replies agree in a figure or in the
issues wherever they agree in the member for it, whatever the other members are. A reply without an object says
nothing. -/
theorem ofObjectReply_parts (text : String) :
    (∀ members, Holds text members →
      List.Forall₂ (fun key x => GivesFigure (lookup key members) x) figureKeys (ofObjectReply text).figures ∧
        ListedUnder (listMember members) (ofObjectReply text).additionalIssues) ∧
    (∀ other members members', Holds text members → Holds other members' →
      (∀ (k : Nat) (key : String), figureKeys[k]? = some key → lookup key members = lookup key members' →
        (ofObjectReply text).figures[k]? = (ofObjectReply other).figures[k]?) ∧
      (lookup "issues" members = lookup "issues" members' →
        (lookup "issues" members = none →
          lookup "additionalIssues" members = lookup "additionalIssues" members') →
        (ofObjectReply text).additionalIssues = (ofObjectReply other).additionalIssues)) ∧
    ((∀ members, ¬Holds text members) → ofObjectReply text = .empty) := by
  refine ⟨fun members h => ?_, fun other members members' h h' => ?_, fun h => ?_⟩
  · rw [ofObjectReply_of_holds h]
    refine ⟨?_, listedUnder_issueMember members⟩
    rw [figures_ofObject, List.forall₂_map_right_iff, List.forall₂_same]
    exact fun key _ => givesFigure_figureMember (.object members) key
  · rw [ofObjectReply_of_holds h, ofObjectReply_of_holds h']
    refine ⟨fun k key hkey heq => ?_, fun hissues hadditional => ?_⟩
    · rw [figures_ofObject, figures_ofObject, List.getElem?_map, List.getElem?_map, hkey, Option.map_some,
        Option.map_some, figureMember, figureMember, get?, get?, heq]
    · have hlist : listMember members = listMember members' := by
        rw [listMember, listMember, ← hissues]
        cases hl : lookup "issues" members with
        | some v => rfl
        | none => rw [hadditional hl]
      change issueMember _ = issueMember _
      rw [issueMember_eq, issueMember_eq, hlist]
  · exact ofObjectReply_of_not_holdsObject (not_exists.2 h)

end Insight

/-- An object with a list of which one element is no issue. -/
def brokenListBody : String :=
  "\x7b\"issues\": [\x7b\x7d, 7], \"loadTimeImpact\": \" 40 % \", \"additionalIssues\": []\x7d"

def brokenListReply : String := "Sure \x7d: " ++ brokenListBody ++ " Done."

def brokenListMembers : List (String × Json) :=
  [("issues", .array [.object [], .number (.nat 7)]), ("loadTimeImpact", .string " 40 % "),
    ("additionalIssues", .array [])]

/-- An object with the same figure and its list under the second key. -/
def secondKeyReply : String :=
  "\x7b\"loadTimeImpact\": \" 40 % \", \"additionalIssues\": [\x7b\x7d]\x7d"

def secondKeyMembers : List (String × Json) :=
  [("loadTimeImpact", .string " 40 % "), ("additionalIssues", .array [.object []])]

theorem holds_brokenListReply : Holds brokenListReply brokenListMembers := by
  have hcut : outermost? brokenListReply.toList = some brokenListBody.toList := by decide +kernel
  rw [holds_iff, hcut]
  rfl

theorem holds_secondKeyReply : Holds secondKeyReply secondKeyMembers := by
  have hcut : outermost? secondKeyReply.toList = some secondKeyReply.toList := by decide +kernel
  rw [holds_iff, hcut]
  rfl

theorem Insight.ofObjectReply_parts_brokenListReply :
    ListedUnder (some (.array [.object [], .number (.nat 7)])) (ofObjectReply brokenListReply).additionalIssues ∧
      (ofObjectReply brokenListReply).figures[0]? = (ofObjectReply secondKeyReply).figures[0]? ∧
      ofObjectReply "\x7d nothing \x7b" = .empty := by
  obtain ⟨parts, agree, -⟩ := ofObjectReply_parts brokenListReply
  obtain ⟨hload, -⟩ := agree secondKeyReply _ _ holds_brokenListReply holds_secondKeyReply
  refine ⟨(parts _ holds_brokenListReply).2, hload 0 "loadTimeImpact" rfl rfl, ?_⟩
  have hnone : ¬HoldsObject "\x7d nothing \x7b" := by decide +kernel
  exact (ofObjectReply_parts "\x7d nothing \x7b").2.2 (not_exists.1 hnone)

end Fanout
