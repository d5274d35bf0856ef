import Mathlib.Data.List.Forall2
import Fanout.Proofs.Tree.Lowering
import Fanout.Pattern.Rules

/-!
# Extras

* `UpToExtras` : two lists of children differ by extras that were put in or left out, besides what differs
  inside of the children that both have;
* `SameButExtras` : so do two trees, at any of their nodes;
* `UpToExtras.filter` : a selection of children that leaves out extras selects children that belong together;
* `shape_alike` : nodes of such trees become nodes of the same shape, of parts that belong together;
* `lower_eq_of_sameButExtras` : such trees are lowered alike.

Extras are left out by three filters and by every search for a field. All are selections of children by
their labels, and an extra without a field is in none of them.
-/

namespace Fanout.Concrete

/-- A comment or another extra that fills no field. -/
def Loose (c : Concrete) : Prop := c.label.extra = true ∧ c.label.field = none

/-- Two lists of children that differ by loose extras, and whose other children are related in pairs. -/
inductive UpToExtras (R : Concrete → Concrete → Prop) : List Concrete → List Concrete → Prop
  | nil : UpToExtras R [] []
  | cons {c d : Concrete} {cs ds : List Concrete} :
    R c d → UpToExtras R cs ds → UpToExtras R (c :: cs) (d :: ds)
  | removed {c : Concrete} {cs ds : List Concrete} :
    c.Loose → UpToExtras R cs ds → UpToExtras R (c :: cs) ds
  | inserted {d : Concrete} {cs ds : List Concrete} :
    d.Loose → UpToExtras R cs ds → UpToExtras R cs (d :: ds)

/-- Two trees that differ by loose extras, which may stand anywhere and hold anything. The flags of errors
may differ with them. -/
inductive SameButExtras : Concrete → Concrete → Prop
  | node (label : Label) (e e' : Bool) {cs ds : List Concrete} :
    UpToExtras SameButExtras cs ds → SameButExtras (.node label e cs) (.node label e' ds)

namespace SameButExtras
variable {c d : Concrete}

theorem label_eq (h : SameButExtras c d) : c.label = d.label := by
  cases h
  rfl

theorem children (h : SameButExtras c d) : UpToExtras SameButExtras c.children d.children := by
  cases h with
  | node label e e' h => exact h

theorem counts_eq (h : SameButExtras c d) : c.counts = d.counts := by
  rw [counts, counts, h.label_eq]

theorem place_eq (h : SameButExtras c d) : c.place = d.place := by
  rw [place, place, h.label_eq]

protected theorem refl (c : Concrete) : SameButExtras c c := by
  induction hsize : sizeOf c using Nat.strongRecOn generalizing c with
  | _ n ih =>
    obtain ⟨label, e, cs⟩ := c
    have hcs : ∀ d ∈ cs, SameButExtras d d := by
      intro d hd
      exact ih (sizeOf d) (hsize ▸ sizeOf_lt_of_mem_children (c := .node label e cs) hd) d rfl
    refine .node label e e ?_
    clear hsize
    induction cs with
    | nil => exact .nil
    | cons d cs ihcs =>
      rw [List.forall_mem_cons] at hcs
      exact .cons hcs.1 (ihcs hcs.2)

end SameButExtras

/-! ## Selections -/

namespace UpToExtras
variable {R : Concrete → Concrete → Prop} {cs ds : List Concrete}

/-- A selection of children that does not tell related ones apart, and takes no loose extra, takes
related children on both sides. -/
theorem filter (h : UpToExtras R cs ds) {p : Concrete → Bool} (hR : ∀ c d, R c d → p c = p d)
    (hp : ∀ c : Concrete, c.Loose → p c = false) : List.Forall₂ R (cs.filter p) (ds.filter p) := by
  induction h with
  | nil => exact .nil
  | @cons c d cs ds hcd _ ih =>
    by_cases hc : p c = true
    · rw [List.filter_cons_of_pos hc, List.filter_cons_of_pos (hR c d hcd ▸ hc)]
      exact .cons hcd ih
    · rw [List.filter_cons_of_neg hc, List.filter_cons_of_neg (hR c d hcd ▸ hc)]
      exact ih
  | @removed c cs ds hc _ ih =>
    rw [List.filter_cons_of_neg (by rw [hp c hc]; decide)]
    exact ih
  | @inserted d cs ds hd _ ih =>
    rw [List.filter_cons_of_neg (by rw [hp d hd]; decide)]
    exact ih

/-- So the first child that is selected has a partner, which is the first one on its side. -/
theorem find? (h : UpToExtras R cs ds) {p : Concrete → Bool} (hR : ∀ c d, R c d → p c = p d)
    (hp : ∀ c : Concrete, c.Loose → p c = false) :
    (cs.find? p = none ∧ ds.find? p = none) ∨
      ∃ c d, cs.find? p = some c ∧ ds.find? p = some d ∧ R c d := by
  have hfilter := h.filter hR hp
  rw [← List.head?_filter, ← List.head?_filter]
  generalize cs.filter p = cs' at hfilter
  generalize ds.filter p = ds' at hfilter
  cases hfilter with
  | nil => exact .inl ⟨rfl, rfl⟩
  | cons hcd _ => exact .inr ⟨_, _, rfl, rfl, hcd⟩

end UpToExtras

theorem Loose.counts {c : Concrete} (h : c.Loose) : c.counts = false := by
  rw [Concrete.counts, h.1, Bool.not_true, Bool.and_false]

section
variable {cs ds : List Concrete} (h : UpToExtras SameButExtras cs ds)
include h

theorem counted_sameButExtras :
    List.Forall₂ SameButExtras (cs.filter counts) (ds.filter counts) :=
  h.filter (fun _ _ hcd => hcd.counts_eq) fun _ hc => hc.counts

theorem operand_sameButExtras :
    (cs.find? counts = none ∧ ds.find? counts = none) ∨
      ∃ c d, cs.find? counts = some c ∧ ds.find? counts = some d ∧ SameButExtras c d :=
  h.find? (fun _ _ hcd => hcd.counts_eq) fun _ hc => hc.counts

theorem child?_sameButExtras (name : String) :
    (child? name cs = none ∧ child? name ds = none) ∨
      ∃ c d, child? name cs = some c ∧ child? name ds = some d ∧ SameButExtras c d := by
  refine h.find? (fun c d hcd => ?_) fun c hc => ?_
  · rw [fills, fills, hcd.label_eq]
  · rw [fills, hc.1]
    rfl

theorem argumentsOf_sameButExtras :
    List.Forall₂ SameButExtras (argumentsOf cs) (argumentsOf ds) := by
  unfold argumentsOf
  rcases child?_sameButExtras h "arguments" with ⟨hc, hd⟩ | ⟨c, d, hc, hd, hcd⟩
  · rw [hc, hd]
    exact .nil
  · rw [hc, hd]
    dsimp only
    rw [hcd.label_eq]
    split
    · exact counted_sameButExtras hcd.children
    · exact .cons hcd .nil

end

/-! ## Lowering -/

/-- Two shapes of one kind whose parts are related in pairs. -/
inductive Shape.Alike (R : Concrete → Concrete → Prop) : Shape → Shape → Prop
  | call {callee callee' : Concrete} {arguments arguments' : List Concrete} :
    R callee callee' → List.Forall₂ R arguments arguments' →
      Alike R (.call callee arguments) (.call callee' arguments')
  | member {object object' : Concrete} (property : String) :
    R object object' → Alike R (.member object property) (.member object' property)
  | await {argument argument' : Concrete} :
    R argument argument' → Alike R (.await argument) (.await argument')
  | identifier (name : String) : Alike R (.identifier name) (.identifier name)
  | other (kind : String) {children children' : List Concrete} :
    List.Forall₂ R children children' → Alike R (.other kind children) (.other kind children')

theorem shape_alike {c d : Concrete} (h : SameButExtras c d) :
    Shape.Alike SameButExtras c.shape d.shape := by
  obtain ⟨label, e, e', h⟩ := h
  rename_i cs ds
  have hother : Shape.Alike SameButExtras (otherShape label cs) (otherShape label ds) :=
    .other label.kind (counted_sameButExtras h)
  simp only [shape]
  by_cases hcall : label.kind = "call_expression"
  · rw [if_pos hcall, if_pos hcall]
    rcases child?_sameButExtras h "function" with ⟨hc, hd⟩ | ⟨callee, callee', hc, hd, hcallee⟩
    · rw [hc, hd]
      exact hother
    · rw [hc, hd]
      exact .call hcallee (argumentsOf_sameButExtras h)
  rw [if_neg hcall, if_neg hcall]
  by_cases hmember : label.kind = "member_expression"
  · rw [if_pos hmember, if_pos hmember]
    rcases child?_sameButExtras h "object" with ⟨hc, hd⟩ | ⟨object, object', hc, hd, hobject⟩
    · rw [hc, hd]
      exact hother
    · rcases child?_sameButExtras h "property" with ⟨hp, hq⟩ | ⟨name, name', hp, hq, hname⟩
      · rw [hc, hd, hp, hq]
        exact hother
      · rw [hc, hd, hp, hq]
        dsimp only
        rw [hname.label_eq]
        exact .member _ hobject
  rw [if_neg hmember, if_neg hmember]
  by_cases hawait : label.kind = "await_expression"
  · rw [if_pos hawait, if_pos hawait]
    rcases operand_sameButExtras h with ⟨hc, hd⟩ | ⟨argument, argument', hc, hd, hargument⟩
    · rw [hc, hd]
      exact hother
    · rw [hc, hd]
      exact .await hargument
  rw [if_neg hawait, if_neg hawait]
  by_cases hname : label.kind = "identifier"
  · rw [if_pos hname, if_pos hname]
    exact .identifier label.text
  · rw [if_neg hname, if_neg hname]
    exact hother

theorem map_eq_of_forall₂ {α β : Type} {R : α → α → Prop} {f : α → β} {as bs : List α}
    (h : List.Forall₂ R as bs) (hf : ∀ a ∈ as, ∀ b, R a b → f a = f b) : as.map f = bs.map f := by
  induction h with
  | nil => rfl
  | cons hab _ ih =>
    rw [List.forall_mem_cons] at hf
    rw [List.map_cons, List.map_cons, hf.1 _ hab, ih hf.2]

/-- The syntax tree does not depend on extras. -/
theorem lowerAll_eq_of_sameButExtras {c d : Concrete} (h : SameButExtras c d) : c.lowerAll = d.lowerAll := by
  -- The arguments of a call are no children of it, so the induction is on the size.
  induction hsize : sizeOf c using Nat.strongRecOn generalizing c d with
  | _ n ih =>
    have part : ∀ b ∈ c.shape.parts, ∀ b', SameButExtras b b' → b.lowerAll = b'.lowerAll := by
      intro b hb b' hbb'
      exact ih (sizeOf b) (hsize ▸ sizeOf_lt_of_mem_parts hb) hbb' rfl
    have hshape := shape_alike h
    rw [lowerAll_eq, lowerAll_eq, h.place_eq]
    generalize c.shape = s at part hshape
    generalize d.shape = s' at hshape
    cases hshape with
    | call hcallee harguments =>
      have hargs := map_eq_of_forall₂ harguments fun b hb => part b (List.mem_cons_of_mem _ hb)
      simp only [part _ List.mem_cons_self _ hcallee, hargs]
    | member property hobject => simp only [part _ List.mem_cons_self _ hobject]
    | await hargument => simp only [part _ List.mem_cons_self _ hargument]
    | identifier name => rfl
    | other kind hchildren => simp only [map_eq_of_forall₂ hchildren part]

/-- Trees that differ by extras only are lowered alike: to the same tree, or to the same line where they
are too deep. So the rules find the same in both. -/
theorem lower_eq_of_sameButExtras {c d : Concrete} (h : SameButExtras c d) :
    c.lower = d.lower ∧
      ∀ file, (c.lower.map fun t => findIssues t file) = d.lower.map fun t => findIssues t file := by
  have hlower : c.lower = d.lower := by
    rw [lower_eq_checked, lower_eq_checked, lowerAll_eq_of_sameButExtras h]
  exact ⟨hlower, fun file => by rw [hlower]⟩

/-- `await xs.map(f)`, with comments behind the keyword and in front of the argument. -/
def commentedMap (behind within : List Concrete) : Concrete :=
  let name (kind text : String) (column : Nat) (field : Option String := none) : Concrete :=
    .leaf { kind, start := ⟨0, column⟩, text, field }
  let callee : Concrete :=
    .ofChildren { kind := "member_expression", start := ⟨0, 20⟩, field := some "function" }
      [name "identifier" "xs" 20 (some "object"), name "property_identifier" "map" 23 (some "property")]
  let arguments : Concrete :=
    .ofChildren { kind := "arguments", start := ⟨0, 26⟩, field := some "arguments" }
      (within ++ [name "identifier" "f" 40])
  .ofChildren { kind := "await_expression", start := ⟨0, 0⟩ }
    (behind ++ [.ofChildren { kind := "call_expression", start := ⟨0, 20⟩ } [callee, arguments]])

/-- A comment, here with a call of `map` in it. -/
def comment (column : Nat) : Concrete :=
  .ofChildren { kind := "comment", start := ⟨0, column⟩, extra := true } [commentedMap [] []]

theorem lower_eq_of_sameButExtras_commentedMap :
    SameButExtras (commentedMap [comment 6] [comment 27]) (commentedMap [] []) ∧
      (commentedMap [comment 6] [comment 27]).lower =
        .ok (.await ⟨1, 0⟩ (.call ⟨1, 20⟩ (.member ⟨1, 20⟩ (.identifier ⟨1, 20⟩ "xs") "map")
          [.identifier ⟨1, 40⟩ "f"])) := by
  have h : SameButExtras (commentedMap [comment 6] [comment 27]) (commentedMap [] []) := by
    refine .node _ _ _ (.removed ⟨rfl, rfl⟩ (.cons (.node _ _ _ ?_) .nil))
    refine .cons (.refl _) (.cons (.node _ _ _ ?_) .nil)
    exact .removed ⟨rfl, rfl⟩ (.cons (.refl _) .nil)
  exact ⟨h, (lower_eq_of_sameButExtras h).1.trans rfl⟩

end Fanout.Concrete
