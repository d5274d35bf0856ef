import Mathlib.Data.List.Perm.Basic
import Fanout.Proofs.Tree.Walk
import Fanout.Tree.Lowering

/-!
# Lowering with and without a limit

* `lowerAll_eq` : the syntax tree of a concrete tree, by the shape of its root;
* `Node.entries` : the nodes of a syntax tree in the order in which lowering comes to them, where the
  arguments of a call come before its callee;
* `checked` : a result, unless one of some visits lies on a level that may not be;
* `lowerWithin_eq_checked` : lowering with a limit is lowering without one, checked against the entries.
-/

namespace Fanout
open Branching

namespace Node

mutual

/-- The nodes of a tree below `ancestors` in the order in which lowering comes to them. -/
def entriesBelow (ancestors : List Node) : Node → List Visit
  | n@(call _ callee arguments) =>
    ⟨n, ancestors⟩ :: (entriesOfAll (n :: ancestors) arguments ++ entriesBelow (n :: ancestors) callee)
  | n@(member _ object _) => ⟨n, ancestors⟩ :: entriesBelow (n :: ancestors) object
  | n@(await _ argument) => ⟨n, ancestors⟩ :: entriesBelow (n :: ancestors) argument
  | n@(identifier _ _) => [⟨n, ancestors⟩]
  | n@(other _ _ children) => ⟨n, ancestors⟩ :: entriesOfAll (n :: ancestors) children

def entriesOfAll (ancestors : List Node) : List Node → List Visit
  | [] => []
  | c :: cs => entriesBelow ancestors c ++ entriesOfAll ancestors cs

end

def entries (root : Node) : List Visit := entriesBelow [] root

theorem entriesOfAll_eq_flatMap (ancestors cs : List Node) :
    entriesOfAll ancestors cs = cs.flatMap (entriesBelow ancestors) := by
  induction cs with
  | nil => rfl
  | cons c cs ih => rw [entriesOfAll, ih, List.flatMap_cons]

/-- Lowering comes to every node once, and to a node before what lies below it. -/
theorem entriesBelow_perm (ancestors : List Node) (n : Node) :
    ∃ below, entriesBelow ancestors n = ⟨n, ancestors⟩ :: below ∧
      below.Perm (n.children.flatMap (entriesBelow (n :: ancestors))) := by
  cases n with
  | call place callee arguments =>
    refine ⟨_, rfl, ?_⟩
    rw [entriesOfAll_eq_flatMap]
    exact List.perm_append_comm
  | member place object p => exact ⟨_, rfl, by simp [children]⟩
  | await place argument => exact ⟨_, rfl, by simp [children]⟩
  | identifier place name => exact ⟨[], rfl, .refl _⟩
  | other place kind cs =>
    refine ⟨_, rfl, ?_⟩
    rw [entriesOfAll_eq_flatMap]
    exact .refl _

theorem entriesBelow_perm_visitsBelow (ancestors : List Node) (n : Node) :
    (entriesBelow ancestors n).Perm (visitsBelow ancestors n) := by
  induction n using Branching.induction generalizing ancestors with
  | step n ih =>
    obtain ⟨below, heq, hperm⟩ := entriesBelow_perm ancestors n
    rw [heq, visitsBelow_eq]
    refine (hperm.trans ?_).cons _
    exact List.Perm.flatMap_left _ fun c hc => ih c hc (n :: ancestors)

theorem mem_entries {root : Node} {v : Visit} : v ∈ root.entries ↔ v ∈ root.visits := by
  rw [visits_eq]
  exact (entriesBelow_perm_visitsBelow [] root).mem_iff

end Node

namespace Concrete

/-! ## Without a limit -/

theorem lowerAll_eq (c : Concrete) :
    c.lowerAll =
      match c.shape with
      | .call callee arguments => .call c.place callee.lowerAll (arguments.map lowerAll)
      | .member object property => .member c.place object.lowerAll property
      | .await argument => .await c.place argument.lowerAll
      | .identifier name => .identifier c.place name
      | .other kind children => .other c.place kind (children.map lowerAll) := by
  rw [lowerAll]
  split <;> simp_all

theorem place_lowerAll (c : Concrete) : c.lowerAll.place = c.place := by
  rw [lowerAll_eq]
  split <;> rfl

theorem children_lowerAll (c : Concrete) : c.lowerAll.children = c.shape.parts.map lowerAll := by
  rw [lowerAll_eq]
  split
  all_goals
    rename_i h
    rw [h]
    rfl

/-! ## With a limit -/

/-- A result, unless one of some visits has `level` ancestors. -/
def checked {α : Type} (level : Nat) (vs : List Node.Visit) (a : α) : Except TooDeep α :=
  match vs.find? (·.ancestors.length == level) with
  | some v => .error ⟨maxDepth, v.node.place.line⟩
  | none => .ok a

section
variable {α β : Type} (level : Nat)

theorem checked_cons_of_ne {v : Node.Visit} (h : v.ancestors.length ≠ level) (vs : List Node.Visit)
    (a : α) : checked level (v :: vs) a = checked level vs a := by
  unfold checked
  rw [List.find?_cons_of_neg (by simpa using h)]

/-- The first of two lists of visits is checked first. -/
theorem checked_append (vs ws : List Node.Visit) (a : α) (f : α → β) :
    (checked level vs a >>= fun x => checked level ws (f x)) = checked level (vs ++ ws) (f a) := by
  unfold checked
  rw [List.find?_append]
  cases vs.find? (·.ancestors.length == level) with
  | some v => rfl
  | none => rfl

theorem checked_bind_pure (vs : List Node.Visit) (a : α) (f : α → β) :
    (checked level vs a >>= fun x => pure (f x)) = checked level vs (f a) := by
  have h := checked_append level vs [] a f
  rw [List.append_nil] at h
  exact h

theorem checked_ok_iff {vs : List Node.Visit} {a b : α} :
    checked level vs a = .ok b ↔ b = a ∧ ∀ v ∈ vs, v.ancestors.length ≠ level := by
  unfold checked
  cases h : vs.find? (·.ancestors.length == level) with
  | some v =>
    have hv := List.find?_some h
    have hm := List.mem_of_find?_eq_some h
    simp only [reduceCtorEq, false_iff, not_and]
    intro _ hall
    exact hall v hm (by simpa using hv)
  | none =>
    rw [List.find?_eq_none] at h
    simp only [Except.ok.injEq]
    exact ⟨fun e => ⟨e.symm, fun v hv e' => h v hv (by simpa using e')⟩, fun e => e.1.symm⟩

end

/-- Lowering some nodes in turn, when each is lowered as it has to be. -/
theorem mapM_eq_checked {f : Concrete → Except TooDeep Node} {level : Nat} {ancestors : List Node}
    (h : ∀ c, f c = checked level (c.lowerAll.entriesBelow ancestors) c.lowerAll)
    (cs : List Concrete) :
    cs.mapM f = checked level (Node.entriesOfAll ancestors (cs.map lowerAll)) (cs.map lowerAll) := by
  induction cs with
  | nil => rfl
  | cons c cs ih =>
    rw [List.mapM_cons, ih, h]
    simp only [checked_bind_pure]
    exact checked_append level _ _ c.lowerAll (· :: cs.map lowerAll)

/-- The tree that may have `levels` levels is the tree without a limit, unless lowering comes to a node
that has `levels` levels above it. -/
theorem lowerWithin_eq_checked (levels : Nat) (ancestors : List Node) (c : Concrete) :
    c.lowerWithin levels =
      checked (ancestors.length + levels) (c.lowerAll.entriesBelow ancestors) c.lowerAll := by
  induction levels generalizing ancestors c with
  | zero =>
    obtain ⟨below, heq, -⟩ := Node.entriesBelow_perm ancestors c.lowerAll
    rw [heq, checked, List.find?_cons_of_pos (by simp), lowerWithin, ← place_lowerAll]
  | succ levels ih =>
    -- A part lies one level deeper and has one level fewer, so the depth that is checked stays the same.
    have part (d : Concrete) : d.lowerWithin levels =
        checked (ancestors.length + (levels + 1))
          (d.lowerAll.entriesBelow (c.lowerAll :: ancestors)) d.lowerAll := by
      rw [ih (c.lowerAll :: ancestors) d, List.length_cons]
      congr 1
      omega
    have enter (vs : List Node.Visit) (n m : Node) :
        checked (ancestors.length + (levels + 1)) (⟨n, ancestors⟩ :: vs) m =
          checked (ancestors.length + (levels + 1)) vs m :=
      checked_cons_of_ne _ (by simp only; omega) vs m
    have hn := lowerAll_eq c
    rw [lowerWithin]
    cases hs : c.shape with
    | call callee arguments =>
      simp only [hs] at hn
      rw [hn] at part ⊢
      rw [Node.entriesBelow, enter]
      simp only [mapM_eq_checked part, part, checked_bind_pure]
      exact checked_append _ _ _ _ fun xs => Node.call c.place callee.lowerAll xs
    | member object property =>
      simp only [hs] at hn
      rw [hn] at part ⊢
      rw [Node.entriesBelow, enter]
      simp only [part, checked_bind_pure]
    | await argument =>
      simp only [hs] at hn
      rw [hn] at part ⊢
      rw [Node.entriesBelow, enter]
      simp only [part, checked_bind_pure]
    | identifier name =>
      simp only [hs] at hn
      rw [hn, Node.entriesBelow, enter]
      rfl
    | other kind children =>
      simp only [hs] at hn
      rw [hn] at part ⊢
      rw [Node.entriesBelow, enter]
      simp only [mapM_eq_checked part, checked_bind_pure]

/-- Lowering succeeds with the tree without a limit, or it fails. -/
theorem lower_eq_checked (c : Concrete) :
    c.lower = checked (maxDepth + 1) c.lowerAll.entries c.lowerAll := by
  rw [lower, lowerWithin_eq_checked (maxDepth + 1) [], List.length_nil, Nat.zero_add]
  rfl

theorem eq_lowerAll_of_lower {c : Concrete} {t : Node} (h : c.lower = .ok t) : t = c.lowerAll := by
  rw [lower_eq_checked, checked_ok_iff] at h
  exact h.1

end Concrete
end Fanout
