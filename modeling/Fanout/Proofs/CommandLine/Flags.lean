import Mathlib.Data.List.TakeWhile
import Fanout.CommandLine.Invocation
import Fanout.Proofs.Fallible

/-!
# Flags on a command line

* `Given.Apart`, `Given.Sets` : no value is awaited for a flag, and a step that sets a flag or leaves it alone;
* `Shape.HasFlag` : a flag that is given by its name only;
* `longOption?_eq_iff` : how a flag is spelled;
* `Shape.sets_meetArgument` : an argument sets a flag just if it spells it;
* `Shape.has_read` : so a flag is set just if it is spelled before two lone dashes;
* `readAnalyze_ai` : the two flags that turn remote insight on and off.

A flag cannot be taken for the value of another option: what begins with two dashes is read as an option.
-/

namespace Fanout.CommandLine

namespace Given

/-! ## Steps -/

/-- No value is awaited for an option, nor is one about to be set. -/
def Apart (option : String) (g : Given) : Prop := ∀ other v, g.pending = some (other, v) → other ≠ option

/-- A step that sets an option or leaves it alone. -/
structure Sets (option : String) (flagged : Bool) (g g' : Given) : Prop where
  has : g'.has option = (g.has option || flagged)
  apart : g'.Apart option

variable {g g' g'' : Given} {shape : Shape} {option other value : String}

theorem apart_of_pending_none (h : g.pending = none) : g.Apart option := by
  intro other v hpending
  rw [h] at hpending
  cases hpending

theorem Sets.trans {b c : Bool} (h : Sets option b g g') (h' : Sets option c g' g'') :
    Sets option (b || c) g g'' :=
  ⟨by rw [h'.has, h.has, Bool.or_assoc], h'.apart⟩

theorem set_eq_ok (option : String) (h : g.set other value = .ok g') :
    g'.has option = (g.has option || option == other) ∧ g'.pending = g.pending := by
  unfold set at h
  split at h
  · cases h
  · cases h
    refine ⟨?_, rfl⟩
    unfold has
    rw [List.lookup_append, Option.isSome_or, List.lookup_singleton]
    cases option == other <;> rfl

theorem setChecked_eq_ok (option : String) (h : setChecked shape g other value = .ok g') :
    g'.has option = (g.has option || option == other) ∧ g'.pending = g.pending := by
  obtain ⟨g₁, hset, h⟩ := bind_eq_ok_iff.1 h
  split at h
  · cases h
  · cases h
    exact set_eq_ok option hset

theorem resolve_eq_ok (hg : g.Apart option) (h : g.resolve shape = .ok g') :
    g'.has option = g.has option ∧ g'.pending = none := by
  unfold resolve at h
  split at h
  · rename_i hnone
    cases h
    exact ⟨rfl, hnone⟩
  · cases h
  · rename_i other v hpending
    obtain ⟨hhas, hnone⟩ := setChecked_eq_ok option h
    have hne : (option == other) = false := beq_eq_false_iff_ne.2 (hg other _ hpending).symm
    rw [hne, Bool.or_false] at hhas
    exact ⟨hhas, hnone⟩

end Given

/-! ## Spelling -/

/-- A flag is spelled by its name behind two dashes. -/
theorem longOption?_eq_iff {option : String} (hplain : '=' ∉ option.toList) (arg : String) :
    longOption? arg = some (option, none) ↔ arg = "--" ++ option := by
  have hspelled : ("--" ++ option).toList = '-' :: '-' :: option.toList := String.toList_append
  constructor
  · intro h
    unfold longOption? at h
    split at h
    · rename_i rest hrest
      obtain ⟨hname, hvalue⟩ := Prod.mk.inj (Option.some.inj h)
      split at hvalue
      · rename_i hnone
        have hall : rest.takeWhile (· != '=') = rest := by
          have hsplit := List.takeWhile_append_dropWhile (p := (· != '=')) (l := rest)
          rwa [hnone, List.append_nil] at hsplit
        rw [hall] at hname
        refine String.toList_injective ?_
        rw [hrest, hspelled, ← hname, String.toList_ofList]
      · cases hvalue
    · cases h
  · rintro rfl
    have hall : ∀ c ∈ option.toList, (c != '=') = true := fun c hc =>
      bne_iff_ne.2 fun heq => hplain (heq ▸ hc)
    unfold longOption?
    rw [hspelled]
    show some (String.ofList (option.toList.takeWhile _), _) = _
    rw [List.takeWhile_eq_self_iff.2 hall, List.dropWhile_eq_nil_iff.2 hall, String.ofList_toList]

namespace Shape
open Given

/-- A flag that has no letter. -/
structure HasFlag (shape : Shape) (option : String) : Prop where
  form : shape.options.lookup option = some .flag
  letters : ∀ c, shape.letters.lookup c ≠ some option
  plain : '=' ∉ option.toList

section
variable {shape : Shape} {option other : String} {g g' : Given}

/-! ## One argument -/

theorem sets_meet (hg : g.Apart option) {form : Form} (hform : form ≠ .flag → other ≠ option)
    (h : shape.meet g other form = .ok g') : Sets option (option == other) g g' := by
  cases form with
  | flag =>
    obtain ⟨g₁, hresolve, h⟩ := bind_eq_ok_iff.1 h
    obtain ⟨hhas₁, hnone⟩ := resolve_eq_ok hg hresolve
    obtain ⟨hhas, hpending⟩ := set_eq_ok option h
    exact ⟨by rw [hhas, hhas₁], apart_of_pending_none (hpending.trans hnone)⟩
  | help | version =>
    obtain ⟨g₁, -, h⟩ := bind_eq_ok_iff.1 h
    cases h
  | text | number =>
    obtain ⟨g₁, hresolve, h⟩ := bind_eq_ok_iff.1 h
    cases h
    have hne : other ≠ option := hform nofun
    refine ⟨?_, ?_⟩
    · rw [beq_eq_false_iff_ne.2 hne.symm, Bool.or_false]
      exact (resolve_eq_ok hg hresolve).1
    · intro other' v hother
      cases hother
      exact hne

theorem sets_long (hshape : shape.HasFlag option) (hg : g.Apart option) {attached : Option String}
    (h : shape.long g other attached = .ok g') : Sets option (option == other && attached.isNone) g g' := by
  have hform {form : Form} (hlookup : shape.options.lookup other = some form) (hne : form ≠ .flag) :
      other ≠ option := by
    rintro rfl
    exact hne (Option.some.inj (hlookup.symm.trans hshape.form))
  unfold long at h
  split at h
  · cases h
  · rename_i form hlookup
    rw [Option.isNone_none, Bool.and_true]
    exact sets_meet hg (hform hlookup) h
  · rename_i form value hlookup
    split at h
    · rename_i hvalue
      obtain ⟨g₁, hresolve, h⟩ := bind_eq_ok_iff.1 h
      obtain ⟨hhas₁, hnone⟩ := resolve_eq_ok hg hresolve
      obtain ⟨hhas, hpending⟩ := setChecked_eq_ok option h
      have hne : other ≠ option := hform hlookup fun hflag => by
        rw [hflag] at hvalue
        cases hvalue
      refine ⟨?_, apart_of_pending_none (hpending.trans hnone)⟩
      rw [hhas, hhas₁, beq_eq_false_iff_ne.2 hne.symm]
      rfl
    · cases h

theorem sets_short (hshape : shape.HasFlag option) (hg : g.Apart option) {letters : List Char}
    (h : shape.short g letters = .ok g') : Sets option false g g' := by
  induction letters generalizing g with
  | nil =>
    cases h
    exact ⟨(Bool.or_false _).symm, hg⟩
  | cons c letters ih =>
    unfold short at h
    split at h
    · cases h
    · rename_i other hletter
      have hne : other ≠ option := by
        rintro rfl
        exact hshape.letters c hletter
      obtain ⟨g₁, hmeet, h⟩ := bind_eq_ok_iff.1 h
      have hfirst := sets_meet hg (fun _ => hne) hmeet
      rw [beq_eq_false_iff_ne.2 hne.symm] at hfirst
      exact hfirst.trans (ih hfirst.apart h)

theorem sets_word (hg : g.Apart option) {w : String} (h : shape.word g w = .ok g') : Sets option false g g' := by
  unfold word at h
  split at h
  · obtain ⟨g₁, hresolve, h⟩ := bind_eq_ok_iff.1 h
    cases h
    obtain ⟨hhas, hnone⟩ := resolve_eq_ok hg hresolve
    exact ⟨hhas.trans (Bool.or_false _).symm, apart_of_pending_none hnone⟩
  · cases h

/-- An argument sets a flag just if it spells it. -/
theorem sets_meetArgument (hshape : shape.HasFlag option) (hg : g.Apart option) {arg : String}
    (h : shape.meetArgument g arg = .ok g') : Sets option (arg == "--" ++ option) g g' := by
  have hspelled := longOption?_eq_iff hshape.plain arg
  have hother (hnone : longOption? arg = none) : (arg == "--" ++ option) = false := by
    refine beq_eq_false_iff_ne.2 fun heq => ?_
    rw [hspelled.2 heq] at hnone
    cases hnone
  unfold meetArgument at h
  split at h
  · rename_i other attached hlong
    have hflagged : (arg == "--" ++ option) = (option == other && attached.isNone) := by
      rw [Bool.eq_iff_iff, beq_iff_eq, ← hspelled, hlong, Bool.and_eq_true, beq_iff_eq, Option.isNone_iff_eq_none,
        Option.some_inj, Prod.mk.injEq, eq_comm (a := other)]
    rw [hflagged]
    exact sets_long hshape hg h
  · rename_i hlong _
    rw [hother hlong]
    exact sets_short hshape hg h
  · rename_i other hlong _ hpending
    cases h
    rw [hother hlong]
    refine ⟨(Bool.or_false _).symm, fun other' v hother' => ?_⟩
    cases hother'
    exact hg _ _ hpending
  · rename_i hlong _ _
    rw [hother hlong]
    exact sets_word hg h

/-! ## All arguments -/

theorem sets_words (hg : g.Apart option) {ws : List String} (h : ws.foldlM shape.word g = .ok g') :
    Sets option false g g' := by
  induction ws generalizing g with
  | nil =>
    cases h
    exact ⟨(Bool.or_false _).symm, hg⟩
  | cons w ws ih =>
    obtain ⟨g₁, hword, h⟩ := bind_eq_ok_iff.1 h
    have hfirst := sets_word hg hword
    exact hfirst.trans (ih hfirst.apart h)

/-- A flag is set just if it was set before, or is spelled before two lone dashes. -/
theorem has_read (hshape : shape.HasFlag option) (hg : g.Apart option) {args : List String}
    (h : shape.read g args = .ok g') :
    g'.has option = (g.has option || (args.takeWhile (· != "--")).contains ("--" ++ option)) := by
  induction args generalizing g with
  | nil => exact (resolve_eq_ok hg h).1.trans (Bool.or_false _).symm
  | cons arg args ih =>
    unfold read at h
    split at h
    · rename_i hdashes
      obtain ⟨g₁, hwords, h⟩ := bind_eq_ok_iff.1 h
      have hrest := sets_words hg hwords
      rw [(resolve_eq_ok hrest.apart h).1, hrest.has, List.takeWhile_cons_of_neg (by simpa using hdashes)]
      rfl
    · rename_i hdashes
      obtain ⟨g₁, hmeet, h⟩ := bind_eq_ok_iff.1 h
      have hfirst := sets_meetArgument hshape hg hmeet
      rw [ih hfirst.apart h, hfirst.has, List.takeWhile_cons_of_pos (by simpa using hdashes), List.contains_cons,
        Bool.or_assoc, BEq.comm (a := arg)]

end
end Shape

/-! ## Remote insight -/

theorem hasFlag_of_analyze {option : String} (hform : analyzeShape.options.lookup option = some .flag)
    (hletters : option ∉ analyzeShape.letters.map (·.2)) (hplain : '=' ∉ option.toList) :
    analyzeShape.HasFlag option := by
  refine ⟨hform, fun c hc => hletters ?_, hplain⟩
  obtain ⟨before, after, hsplit, -⟩ := List.lookup_eq_some_iff.1 hc
  rw [hsplit]
  exact List.mem_map_of_mem (List.mem_append_right before List.mem_cons_self)

/-- Remote insight is on if `--ai` is given and off if `--no-ai` is, both before two lone dashes. -/
theorem readAnalyze_ai {args : List String} {verbose : Bool} {c : AnalyzeCommand}
    (h : readAnalyze args = .ok ⟨verbose, .analyze c⟩) :
    c.overrides.ai =
      if "--ai" ∈ args.takeWhile (· != "--") then some true
      else if "--no-ai" ∈ args.takeWhile (· != "--") then some false
      else none := by
  obtain ⟨g, hread, h⟩ := bind_eq_ok_iff.1 h
  have hstart (option : String) : ({} : Given).Apart option := Given.apart_of_pending_none rfl
  have hai : g.has "ai" = (args.takeWhile (· != "--")).contains "--ai" :=
    (Shape.has_read (hasFlag_of_analyze (by decide) (by decide) (by decide)) (hstart _) hread).trans
      (Bool.false_or _)
  have hnoAi : g.has "no-ai" = (args.takeWhile (· != "--")).contains "--no-ai" :=
    (Shape.has_read (hasFlag_of_analyze (by decide) (by decide) (by decide)) (hstart _) hread).trans
      (Bool.false_or _)
  by_cases hboth : (g.has "ai" && g.has "no-ai") = true
  · cases (if_pos hboth).symm.trans h
  · cases (if_neg hboth).symm.trans h
    simp only [hai, hnoAi, List.contains_iff_mem]

end Fanout.CommandLine
