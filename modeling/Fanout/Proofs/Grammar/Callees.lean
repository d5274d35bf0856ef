import Fanout.Proofs.Grammar.Invariant
import Fanout.Proofs.Tree.Origin

/-!
# Callees come first

* `Concrete.CalleesLead` : in no node of a tree a child behind the first one fills the field of the
  function;
* `Orderly` : the same of the nodes that a reading has left since the innermost open node was opened;
* `orderly_invariant` : a reading keeps it;
* `calleesFirst_ofSource` : in every call of a tree that is read from a text the callee stands left of
  the arguments;
* `origins_ofSource` : so lowering such a tree keeps the order of its nodes.
-/

namespace Fanout.Concrete
open Branching

/-- No child behind the first one fills the field of the function. -/
def Leads (children : List Concrete) : Prop := ∀ c ∈ children.tail, c.label.field ≠ some "function"

/-- In no node of the tree a child behind the first one fills the field of the function. -/
def CalleesLead (c : Concrete) : Prop := ∀ p d, subtree? c p = some d → Leads d.children

theorem calleesLead_iff {c : Concrete} :
    c.CalleesLead ↔ Leads c.children ∧ ∀ d ∈ c.children, d.CalleesLead := by
  constructor
  · intro h
    refine ⟨h [] c rfl, fun d hd p e he => ?_⟩
    obtain ⟨i, hi⟩ := List.getElem?_of_mem hd
    exact h (i :: p) e ((subtree?_cons_of_child hi p).trans he)
  · rintro ⟨hc, h⟩ p d hd
    cases p with
    | nil =>
      cases hd
      exact hc
    | cons i p =>
      rw [subtree?_cons] at hd
      obtain ⟨e, he, hd⟩ := Option.bind_eq_some_iff.1 hd
      exact h e (List.mem_of_getElem? he) p d hd

theorem calleesLead_withField {c : Concrete} {name : String} :
    (c.withField name).CalleesLead ↔ c.CalleesLead := by
  have h : (c.withField name).children = c.children := by
    cases c
    rfl
  rw [calleesLead_iff, h, ← calleesLead_iff]

theorem calleesLead_ofChildren {label : Label} {children : List Concrete} :
    (ofChildren label children).CalleesLead ↔ Leads children ∧ ∀ d ∈ children, d.CalleesLead :=
  calleesLead_iff

theorem calleesLead_leaf (label : Label) : (leaf label).CalleesLead :=
  calleesLead_ofChildren.2 ⟨nofun, nofun⟩

/-- The callee is then the first child, and the arguments are another one. -/
theorem CalleesLead.calleesFirst {c : Concrete} (h : c.CalleesLead) : c.CalleesFirst := by
  intro p d hd _ i j hi hj
  have hlead := h p d hd
  have hzero : i = 0 := by
    cases i with
    | zero => rfl
    | succ i =>
      obtain ⟨e, he, -, hf⟩ := exists_of_fieldIndex hi
      have hmem : e ∈ d.children.tail := by
        rw [← List.drop_one]
        exact List.mem_of_getElem? (by rw [List.getElem?_drop, Nat.add_comm]; exact he)
      exact absurd hf (hlead e hmem)
  subst hzero
  refine Nat.pos_of_ne_zero ?_
  rintro rfl
  exact fieldIndex_ne hi (by decide) hj

end Fanout.Concrete

namespace Fanout.Grammar
open Concrete

/-! ## What a reading leaves -/

/-- Of the nodes left since the innermost open node was opened, the last one first, only the first may
fill the field of the function, and no comment does. -/
structure Orderly (out : List Concrete) : Prop where
  lead : ∀ c ∈ out, c.CalleesLead
  behind : ∀ c ∈ out.dropLast, c.label.field ≠ some "function"
  extra : ∀ c ∈ out, c.label.extra = true → c.label.field ≠ some "function"

namespace Orderly
variable {out : List Concrete}

theorem nil : Orderly [] := ⟨nofun, nofun, nofun⟩

theorem tail {c : Concrete} (h : Orderly (c :: out)) : Orderly out := by
  refine ⟨fun d hd => h.lead d (List.mem_cons_of_mem _ hd), fun d hd => h.behind d ?_,
    fun d hd => h.extra d (List.mem_cons_of_mem _ hd)⟩
  cases out with
  | nil => cases hd
  | cons e out => exact List.mem_cons_of_mem _ hd

/-- More nodes may be left that do not fill the field of the function. -/
theorem cons (h : Orderly out) {c : Concrete} (hc : c.CalleesLead)
    (hf : c.label.field ≠ some "function") : Orderly (c :: out) := by
  refine ⟨?_, fun d hd => ?_, ?_⟩
  · rintro d (_ | ⟨_, hd⟩)
    · exact hc
    · exact h.lead d hd
  · cases out with
    | nil => cases hd
    | cons e out =>
      obtain rfl | hd := List.mem_cons.1 hd
      · exact hf
      · exact h.behind d hd
  · rintro d (_ | ⟨_, hd⟩)
    · exact fun _ => hf
    · exact h.extra d hd

theorem append (h : Orderly out) {more : List Concrete}
    (hmore : ∀ c ∈ more, c.CalleesLead ∧ c.label.field ≠ some "function") :
    Orderly (more ++ out) := by
  induction more with
  | nil => exact h
  | cons c more ih =>
    obtain ⟨hc, hf⟩ := hmore c List.mem_cons_self
    exact (ih fun d hd => hmore d (List.mem_cons_of_mem _ hd)).cons hc hf

/-- In the order of the text no node behind the first one fills the field of the function. -/
theorem leads (h : Orderly out) : Leads out.reverse := by
  intro c hc
  rw [List.tail_reverse, List.mem_reverse] at hc
  exact h.behind c hc

end Orderly

theorem leads_dropWhile {children : List Concrete} (p : Concrete → Bool) (h : Leads children) :
    Leads (children.dropWhile p) := by
  cases children with
  | nil => exact h
  | cons c children =>
    by_cases hp : p c = true
    · rw [List.dropWhile_cons_of_pos hp]
      exact fun d hd => h d ((List.dropWhile_sublist p).subset (List.mem_of_mem_tail hd))
    · rw [List.dropWhile_cons_of_neg hp]
      exact h

/-- A node made of the nodes left keeps the order, and so do the comments that come before it. -/
theorem build_orderly {out outer : List Concrete} (hout : Orderly out) (houter : Orderly outer)
    (kind : String) (cursor : Source.Cursor) : Orderly (build kind cursor out.reverse outer) := by
  unfold build
  refine (houter.append fun c hc => ?_).cons (calleesLead_ofChildren.2 ⟨?_, fun c hc => ?_⟩) nofun
  · have hmem : c ∈ out := by
      rw [List.mem_reverse] at hc
      exact List.mem_reverse.1 ((List.takeWhile_sublist _).subset hc)
    have hextra : c.label.extra = true := by
      rw [List.mem_reverse] at hc
      exact List.all_eq_true.1 List.all_takeWhile c hc
    exact ⟨hout.lead c hmem, hout.extra c hmem hextra⟩
  · exact leads_dropWhile _ hout.leads
  · exact hout.lead c (List.mem_reverse.1 ((List.dropWhile_sublist _).subset hc))

/-! ## A reading keeps the order -/

theorem take_orderly {spot : Spot} (h : Orderly spot.out) (s : Source) (l : Lexeme) (g : Source.Gap)
    (stop : Source.Cursor) : Orderly (spot.take s l g stop).out := by
  have hcomments : Orderly (g.comments.map (commentNode s) ++ spot.out) := by
    refine h.append fun c hc => ?_
    obtain ⟨comment, -, rfl⟩ := List.mem_map.1 hc
    exact ⟨calleesLead_leaf _, nofun⟩
  unfold Spot.take
  split
  · exact h
  · cases hs : l.silent with
    | true => exact hcomments
    | false => exact hcomments.cons (calleesLead_leaf _) nofun

theorem label_withField (c : Concrete) (name : String) :
    (c.withField name).label = { c.label with field := some name } := by
  cases c
  rfl

/-- The first child of a node may fill the field of the function, but a comment is no such child. -/
theorem asHead_orderly {first : Concrete} (hlead : first.CalleesLead)
    (hextra : first.label.extra = false) (head : Option Head) : Orderly [asHead head first] := by
  have hhead : (asHead head first).CalleesLead ∧ (asHead head first).label.extra = false := by
    cases head with
    | none => exact ⟨hlead, hextra⟩
    | some head =>
      refine ⟨calleesLead_withField.2 hlead, ?_⟩
      rw [asHead, label_withField]
      exact hextra
  refine ⟨fun c hc => ?_, nofun, fun c hc hc' => ?_⟩
  · rw [List.mem_singleton.1 hc]
    exact hhead.1
  · rw [List.mem_singleton.1 hc, hhead.2] at hc'
    cases hc'

theorem setPart_orderly {out : List Concrete} (h : Orderly out) (part : Part) :
    Orderly (setPart part out) := by
  cases out with
  | nil => exact .nil
  | cons c out =>
    refine h.tail.cons (calleesLead_withField.2 (h.lead c List.mem_cons_self)) ?_
    rw [label_withField]
    cases part <;> simp [Part.name]

theorem orderly_invariant : Invariant Orderly where
  nil := .nil
  tail h := h.tail
  take h := take_orderly h
  build hout houter := build_orderly hout houter
  head h hextra := asHead_orderly (h.lead _ List.mem_cons_self) hextra
  setPart h := setPart_orderly h

end Fanout.Grammar

namespace Fanout.Concrete
open Grammar Branching

theorem calleesLead_program {children : List Concrete} (h : Orderly children.reverse)
    (stop : Source.Cursor) : (program stop children).CalleesLead := by
  have hlead := h.leads
  rw [List.reverse_reverse] at hlead
  exact calleesLead_ofChildren.2 ⟨hlead, fun d hd => h.lead d (List.mem_reverse.2 hd)⟩

theorem calleesLead_ofSource (language : Language) (text : String) :
    (ofSource language text).CalleesLead := by
  cases hread : Grammar.read (Grammar.phrases language) (Source.ofString text) with
  | accepted out stop =>
    unfold ofSource
    simp only [hread]
    refine calleesLead_program ?_ stop
    rw [List.reverse_reverse]
    exact orderly_invariant.of_read hread
  | stuck reach =>
    unfold ofSource
    simp only [hread]
    refine calleesLead_program ?_ _
    exact Orderly.nil.cons (calleesLead_leaf _) nofun

/-- In every call of a tree that is read from a text the callee stands left of the arguments. -/
theorem calleesFirst_ofSource (language : Language) (text : String) :
    (ofSource language text).CalleesFirst :=
  (calleesLead_ofSource language text).calleesFirst

/-- So a walk through the lowered tree of a text comes to the kept nodes in the order of its concrete tree. -/
theorem origins_ofSource (language : Language) (text : String) :
    (ofSource language text).origins =
      (addresses (ofSource language text)).filter ((ofSource language text).Keeps ·) :=
  origins_eq (calleesFirst_ofSource language text)

end Fanout.Concrete
