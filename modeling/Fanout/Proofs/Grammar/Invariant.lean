import Fanout.Grammar.Reading

/-!
# What a reading keeps

* `Invariant` : a property of the nodes left since the innermost open node was opened, which everything
  that leaves nodes keeps;
* `Invariant.step`, `Invariant.run` : then one step keeps it of all nodes that are held, and so a whole
  reading;
* `Invariant.of_forall` : what is handed on from children to their parent is such a property of each node;
* `ofSource_of_forall` : so it holds of the tree of every text.
-/

namespace Fanout.Grammar
open Concrete

/-- A property of the nodes left since the innermost open node was opened, the last one first, which is
kept wherever nodes are left. -/
structure Invariant (P : List Concrete → Prop) : Prop where
  nil : P []
  tail {c : Concrete} {out : List Concrete} : P (c :: out) → P out
  take {spot : Spot} : P spot.out → ∀ s l g stop, P (spot.take s l g stop).out
  build {out outer : List Concrete} :
    P out → P outer → ∀ kind cursor, P (build kind cursor out.reverse outer)
  head {c : Concrete} {out : List Concrete} :
    P (c :: out) → c.label.extra = false → ∀ head, P [asHead head c]
  setPart {out : List Concrete} : P out → ∀ part, P (setPart part out)

/-! ## Steps -/

/-- The property holds of the nodes that a frame keeps for later. -/
def Frame.Holds (P : List Concrete → Prop) : Frame → Prop
  | .next _ | .field _ | .restore _ => True
  | .orElse _ spot | .again _ spot | .peek spot | .reject spot => P spot.out
  | .build _ outer => P outer

structure State.Holds (P : List Concrete → Prop) (st : State) : Prop where
  spot : P st.spot.out
  frames : ∀ f ∈ st.frames, f.Holds P

def Turn.Holds (P : List Concrete → Prop) : Turn → Prop
  | .go st => st.Holds P
  | .stop (.accepted out _) => P out
  | .stop (.stuck _) => True

namespace Invariant
variable {P : List Concrete → Prop} {st : State}

theorem push (h : st.Holds P) {f : Frame} (hf : f.Holds P) : ∀ g ∈ f :: st.frames, g.Holds P := by
  intro g hg
  obtain rfl | hg := List.mem_cons.1 hg
  · exact hf
  · exact h.frames g hg

theorem read (hP : Invariant P) (h : st.Holds P) (phrases : Phrase → Rule) (s : Source) (r : Rule) :
    (st.read phrases s r).Holds P := by
  cases r with
  | done => exact ⟨h.spot, h.frames⟩
  | fail => exact ⟨h.spot, h.frames⟩
  | lexeme l =>
    simp only [State.read]
    split
    · exact ⟨hP.take h.spot s l _ _, h.frames⟩
    · exact ⟨h.spot, h.frames⟩
  | phrase p => exact ⟨h.spot, h.frames⟩
  | seq a b => exact ⟨h.spot, push h trivial⟩
  | alt a b => exact ⟨h.spot, push h h.spot⟩
  | many a => exact ⟨h.spot, push h h.spot⟩
  | ahead choose => exact ⟨h.spot, h.frames⟩
  | peek a => exact ⟨h.spot, push h h.spot⟩
  | reject a => exact ⟨h.spot, push h h.spot⟩
  | node kind a => exact ⟨hP.nil, push h h.spot⟩
  | extend kind head a =>
    simp only [State.read]
    split
    · exact ⟨h.spot, h.frames⟩
    · rename_i first outer hout
      have hspot := h.spot
      rw [hout] at hspot
      split
      · exact ⟨h.spot, h.frames⟩
      · rename_i hextra
        exact ⟨hP.head hspot (Bool.eq_false_iff.2 hextra) head, push h (hP.tail hspot)⟩
  | field part a => exact ⟨h.spot, push h trivial⟩
  | within change a => exact ⟨h.spot, push h trivial⟩

theorem accept (hP : Invariant P) (h : st.Holds P) : st.accept.Holds P := by
  obtain ⟨control, spot, frames, reach⟩ := st
  cases frames with
  | nil => exact h.spot
  | cons f frames =>
    have hf := h.frames f List.mem_cons_self
    have hrest : ∀ g ∈ frames, g.Holds P := fun g hg => h.frames g (List.mem_cons_of_mem _ hg)
    cases f with
    | next r => exact ⟨h.spot, hrest⟩
    | orElse r before => exact ⟨h.spot, hrest⟩
    | again r before =>
      simp only [State.accept]
      split
      · refine ⟨h.spot, fun g hg => ?_⟩
        obtain rfl | hg := List.mem_cons.1 hg
        · exact h.spot
        · exact hrest g hg
      · exact ⟨h.spot, hrest⟩
    | peek before => exact ⟨hf, hrest⟩
    | reject before => exact ⟨hf, hrest⟩
    | build kind outer => exact ⟨hP.build h.spot hf kind spot.cursor, hrest⟩
    | field part => exact ⟨hP.setPart h.spot part, hrest⟩
    | restore mode => exact ⟨h.spot, hrest⟩

theorem fail (h : st.Holds P) : st.fail.Holds P := by
  obtain ⟨control, spot, frames, reach⟩ := st
  cases frames with
  | nil => trivial
  | cons f frames =>
    have hf := h.frames f List.mem_cons_self
    have hrest : ∀ g ∈ frames, g.Holds P := fun g hg => h.frames g (List.mem_cons_of_mem _ hg)
    cases f with
    | orElse r before => exact ⟨hf, hrest⟩
    | again r before => exact ⟨hf, hrest⟩
    | reject before => exact ⟨hf, hrest⟩
    | next r => exact ⟨h.spot, hrest⟩
    | peek before => exact ⟨h.spot, hrest⟩
    | build kind outer => exact ⟨h.spot, hrest⟩
    | field part => exact ⟨h.spot, hrest⟩
    | restore mode => exact ⟨h.spot, hrest⟩

/-- A step keeps the property of all nodes that are held. -/
theorem step (hP : Invariant P) (h : st.Holds P) (phrases : Phrase → Rule) (s : Source) :
    (st.step phrases s).Holds P := by
  unfold State.step
  split
  · exact hP.read h phrases s _
  · exact hP.accept h
  · exact fail h

/-! ## Readings -/

theorem run (hP : Invariant P) (phrases : Phrase → Rule) (s : Source) {fuel : Nat} (h : st.Holds P)
    {out : List Concrete} {stop : Source.Cursor}
    (hrun : Grammar.run phrases s fuel st = .accepted out stop) : P out := by
  induction fuel generalizing st with
  | zero => cases hrun
  | succ fuel ih =>
    have hstep := hP.step h phrases s
    rw [Grammar.run] at hrun
    split at hrun
    · rename_i next hnext
      rw [hnext] at hstep
      exact ih hstep hrun
    · rename_i outcome hnext
      rw [hnext, hrun] at hstep
      exact hstep

/-- What a reading leaves has the property, whatever the rules are. -/
theorem of_read (hP : Invariant P) {phrases : Phrase → Rule} {s : Source} {out : List Concrete}
    {stop : Source.Cursor} (h : Grammar.read phrases s = .accepted out stop) : P out := by
  unfold Grammar.read at h
  refine hP.run phrases s ⟨?_, ?_⟩ h
  · exact hP.nil
  · exact nofun

/-! ## Properties of each node -/

/-- A property that children hand on to their parent, and that does not depend on the field of a node, is
kept of each node. -/
theorem of_forall {Q : Concrete → Prop}
    (hparent : ∀ label children, (∀ c ∈ children, Q c) → Q (ofChildren label children))
    (hfield : ∀ c name, Q c → Q (c.withField name)) : Invariant fun out => ∀ c ∈ out, Q c where
  nil := nofun
  tail h c hc := h c (List.mem_cons_of_mem _ hc)
  take := by
    intro spot h s l g stop
    have hleaf : ∀ label, Q (leaf label) := fun label => hparent label [] nofun
    have hcomments : ∀ c ∈ g.comments.map (commentNode s) ++ spot.out, Q c := by
      intro c hc
      rcases List.mem_append.1 hc with hc | hc
      · obtain ⟨comment, -, rfl⟩ := List.mem_map.1 hc
        exact hleaf _
      · exact h c hc
    unfold Spot.take
    split
    · exact h
    · cases hs : l.silent with
      | true => exact hcomments
      | false => exact List.forall_mem_cons.2 ⟨hleaf _, hcomments⟩
  build := by
    intro out outer hout houter kind cursor
    have hchild : ∀ c ∈ out.reverse, Q c := fun c hc => hout c (List.mem_reverse.1 hc)
    refine List.forall_mem_cons.2 ⟨hparent _ _ fun c hc => ?_, fun c hc => ?_⟩
    · exact hchild c ((List.dropWhile_sublist _).subset hc)
    · rcases List.mem_append.1 hc with hc | hc
      · exact hchild c ((List.takeWhile_sublist _).subset (List.mem_reverse.1 hc))
      · exact houter c hc
  head := by
    intro c out h _ head
    have hc := h c List.mem_cons_self
    refine List.forall_mem_singleton.2 ?_
    cases head with
    | none => exact hc
    | some head => exact hfield c head.name hc
  setPart := by
    intro out h part
    cases out with
    | nil => exact nofun
    | cons c out =>
      rw [List.forall_mem_cons] at h
      exact List.forall_mem_cons.2 ⟨hfield c part.name h.1, h.2⟩

end Invariant

theorem ofSource_of_forall {Q : Concrete → Prop}
    (hparent : ∀ label children, (∀ c ∈ children, Q c) → Q (ofChildren label children))
    (hfield : ∀ c name, Q c → Q (c.withField name)) (language : Language) (text : String) :
    Q (ofSource language text) := by
  unfold ofSource
  dsimp only
  split
  · rename_i out stop hread
    have hout := (Invariant.of_forall hparent hfield).of_read hread
    exact hparent _ _ fun c hc => hout c (List.mem_reverse.1 hc)
  · refine hparent _ _ fun c hc => ?_
    obtain rfl := List.mem_singleton.1 hc
    exact hparent _ _ nofun

end Fanout.Grammar
