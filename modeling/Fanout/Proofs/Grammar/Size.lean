import Mathlib.Algebra.Ring.Nat
import Fanout.Proofs.Tree.Origin
import Fanout.Grammar.Reading

/-!
# How many nodes a text becomes

* `Branching.size` : the number of nodes of a tree;
* `Grammar.kept` : the number of nodes that open nodes keep from before they were opened;
* `Grammar.Light` : a reading holds at most so many nodes, and so it does after it has gone back to any spot
  that it may go back to;
* `State.step_light`, `run_light` : a step adds a node at most, besides the comments of one gap. What goes back
  is not added to what it replaces, although both are kept side by side until then;
* `Concrete.size_ofSource_le` : the bound for the tree of a text.
-/

namespace Fanout

/-! ## Sizes -/

namespace Branching
variable {α : Type} [Branching α]

def size (a : α) : Nat := (addresses a).length

/-- The number of nodes of some trees. -/
def sizes (l : List α) : Nat := (l.map size).sum

theorem size_eq (a : α) : size a = 1 + sizes (children a) := by
  have hlength (x : α × Nat) : ((addresses x.1).map (x.2 :: ·)).length = size x.1 := List.length_map _
  have hchildren : (children a).zipIdx.map (fun x => size x.1) = (children a).map size := by
    conv_rhs => rw [← List.zipIdx_map_fst 0 (children a), List.map_map]
    rfl
  rw [size, addresses_eq, List.length_cons, List.length_flatMap, Nat.add_comm]
  simp only [hlength, hchildren]
  rfl

@[simp] theorem sizes_nil : sizes ([] : List α) = 0 := rfl

@[simp] theorem sizes_cons (a : α) (l : List α) : sizes (a :: l) = size a + sizes l := by
  simp only [sizes, List.map_cons, List.sum_cons]

@[simp] theorem sizes_append (l m : List α) : sizes (l ++ m) = sizes l + sizes m := by
  simp only [sizes, List.map_append, List.sum_append]

@[simp] theorem sizes_reverse (l : List α) : sizes l.reverse = sizes l := by
  induction l with
  | nil => rfl
  | cons a l ih =>
    rw [List.reverse_cons, sizes_append, ih, sizes_cons, sizes_cons, sizes_nil]
    omega

end Branching

namespace Concrete
open Branching

theorem size_ofChildren (label : Label) (children : List Concrete) :
    size (ofChildren label children) = 1 + sizes children := size_eq _

theorem size_leaf (label : Label) : size (leaf label) = 1 := size_ofChildren label []

theorem size_withField (c : Concrete) (name : String) : size (c.withField name) = size c := by
  rw [size_eq, size_eq]
  cases c
  rfl

end Concrete

/-! ## Comments of a gap -/

theorem Source.length_gapWith_le (s : Source) (fuel : Nat) (g : Gap) :
    (s.gapWith fuel g).comments.length ≤ g.comments.length + fuel := by
  induction fuel generalizing g with
  | zero => exact Nat.le_refl _
  | succ fuel ih =>
    have hstop : g.comments.length ≤ g.comments.length + (fuel + 1) := Nat.le_add_right _ _
    rw [gapWith]
    split
    · exact hstop
    · split_ifs
      · exact Nat.le_trans (ih _) (Nat.le_succ _)
      · split
        · next stop _ =>
          have hmore := ih { g with next := stop, comments := (g.next, stop) :: g.comments }
          rw [List.length_cons] at hmore
          refine Nat.le_trans hmore ?_
          omega
        · exact hstop
      · exact hstop

theorem Source.length_gap_le (s : Source) (c : Cursor) : (s.gap c).comments.length ≤ s.chars.size := by
  have h := s.length_gapWith_le (s.chars.size - c.index) ⟨c, [], false⟩
  rw [List.length_nil] at h
  exact Nat.le_trans h (by omega)

namespace Grammar
open Branching Concrete

/-! ## What is left -/

theorem size_asHead (head : Option Head) (c : Concrete) : size (asHead head c) = size c := by
  cases head with
  | none => rfl
  | some h => exact size_withField c h.name

theorem sizes_setPart (part : Part) (out : List Concrete) : sizes (setPart part out) = sizes out := by
  cases out with
  | nil => rfl
  | cons c out => rw [setPart, sizes_cons, sizes_cons, size_withField]

theorem sizes_comments (s : Source) (comments : List (Source.Cursor × Source.Cursor)) :
    sizes (comments.map (commentNode s)) = comments.length := by
  induction comments with
  | nil => rfl
  | cons c comments ih =>
    rw [List.map_cons, sizes_cons, ih, commentNode, size_leaf, List.length_cons]
    omega

theorem sizes_build (kind : String) (cursor : Source.Cursor) (children outer : List Concrete) :
    sizes (build kind cursor children outer) = 1 + sizes children + sizes outer := by
  have hsplit : sizes children =
      sizes (children.takeWhile (·.label.extra)) + sizes (children.dropWhile (·.label.extra)) := by
    rw [← sizes_append, List.takeWhile_append_dropWhile]
  rw [build, sizes_cons, size_ofChildren, sizes_append, sizes_reverse, hsplit]
  omega

theorem sizes_take_le (spot : Spot) (s : Source) (l : Lexeme) (g : Source.Gap) (stop : Source.Cursor) :
    sizes (spot.take s l g stop).out ≤ sizes spot.out + g.comments.length + 1 := by
  have hcomments := sizes_comments s g.comments
  unfold Spot.take
  split
  · exact Nat.le_trans (Nat.le_add_right _ _) (Nat.le_succ _)
  · cases hs : l.silent with
    | true =>
      simp only [if_true, sizes_append, hcomments]
      omega
    | false =>
      simp only [sizes_append, hcomments, Bool.false_eq_true, if_false, sizes_cons, size_leaf]
      omega

/-! ## Steps -/

/-- The nodes that an open node keeps from before it was opened. -/
def Frame.outer : Frame → List Concrete
  | .build _ outer => outer
  | _ => []

/-- The spot that a frame may go back to. -/
def Frame.spot? : Frame → Option Spot
  | .orElse _ spot | .again _ spot | .peek spot | .reject spot => some spot
  | _ => none

/-- The number of nodes that all open nodes keep from before them. -/
def kept (frames : List Frame) : Nat := (frames.map fun f => sizes f.outer).sum

theorem kept_cons (f : Frame) (frames : List Frame) : kept (f :: frames) = sizes f.outer + kept frames := by
  simp only [kept, List.map_cons, List.sum_cons]

/-- Wherever the frames go back to, at most `n` nodes are held there. -/
def LightBack (n : Nat) : List Frame → Prop
  | [] => True
  | f :: frames => (∀ spot, f.spot? = some spot → sizes spot.out + kept frames ≤ n) ∧ LightBack n frames

theorem LightBack.mono {n m : Nat} (hnm : n ≤ m) {frames : List Frame} (h : LightBack n frames) :
    LightBack m frames := by
  induction frames with
  | nil => trivial
  | cons f frames ih => exact ⟨fun spot hspot => Nat.le_trans (h.1 spot hspot) hnm, ih h.2⟩

/-- At most `n` nodes are held, now and wherever the frames go back to. -/
structure Light (n : Nat) (out : List Concrete) (frames : List Frame) : Prop where
  now : sizes out + kept frames ≤ n
  back : LightBack n frames

def Turn.Light (n : Nat) : Turn → Prop
  | .go st => Grammar.Light n st.spot.out st.frames
  | .stop (.accepted out _) => sizes out ≤ n
  | .stop (.stuck _) => True

namespace Light
variable {n m : Nat} {out : List Concrete} {frames : List Frame}

theorem mono (h : Light n out frames) (hnm : n ≤ m) : Light m out frames :=
  ⟨Nat.le_trans h.now hnm, h.back.mono hnm⟩

/-- A frame that keeps no nodes, and goes back to what is held now if anywhere, may be put on the others. -/
theorem push {spot : Spot} (h : Light n spot.out frames) (f : Frame) (houter : f.outer = [])
    (hf : f.spot? = none ∨ f.spot? = some spot) : Light n spot.out (f :: frames) := by
  refine ⟨?_, fun before hbefore => ?_, h.back⟩
  · rw [kept_cons, houter, sizes_nil, Nat.zero_add]
    exact h.now
  · obtain hnone | hsome := hf
    · rw [hnone] at hbefore
      cases hbefore
    · rw [hsome] at hbefore
      cases hbefore
      exact h.now

/-- A node that is opened keeps what was left before it. -/
theorem opened {outer : List Concrete} {kind : String} (h : Light n (out ++ outer) frames) :
    Light n out (.build kind outer :: frames) := by
  have hnow := h.now
  rw [sizes_append] at hnow
  refine ⟨?_, nofun, h.back⟩
  rw [kept_cons]
  show sizes out + (sizes outer + kept frames) ≤ n
  omega

theorem tail {f : Frame} (h : Light n out (f :: frames)) : Light n out frames := by
  have hnow := h.now
  rw [kept_cons] at hnow
  exact ⟨by omega, h.back.2⟩

theorem before {f : Frame} (h : Light n out (f :: frames)) {spot : Spot} (hf : f.spot? = some spot) :
    Light n spot.out frames :=
  ⟨h.back.1 spot hf, h.back.2⟩

/-- The node itself comes to what was left before it was opened. -/
theorem closed {outer : List Concrete} {kind : String} (h : Light n out (.build kind outer :: frames))
    (cursor : Source.Cursor) : Light (n + 1) (build kind cursor out.reverse outer) frames := by
  have hnow := h.now
  rw [kept_cons] at hnow
  have houter : sizes out + (sizes outer + kept frames) ≤ n := hnow
  refine ⟨?_, h.back.2.mono (Nat.le_succ n)⟩
  rw [sizes_build, sizes_reverse]
  omega

theorem take {spot : Spot} (h : Light n spot.out frames) (s : Source) (l : Lexeme) {g : Source.Gap}
    (hg : g.comments.length ≤ s.chars.size) (stop : Source.Cursor) :
    Light (n + (s.chars.size + 1)) (spot.take s l g stop).out frames := by
  have hnow := h.now
  have htake := sizes_take_le spot s l g stop
  exact ⟨by omega, h.back.mono (Nat.le_add_right _ _)⟩

end Light

namespace State
variable {st : State} {n : Nat}

/-- Only a token leaves more than was held. -/
theorem read_light (h : Light n st.spot.out st.frames) (phrases : Phrase → Rule) (s : Source) (r : Rule) :
    Light (n + (s.chars.size + 1)) (st.read phrases s r).spot.out (st.read phrases s r).frames := by
  have hkeep : n ≤ n + (s.chars.size + 1) := Nat.le_add_right _ _
  cases r with
  | done => exact h.mono hkeep
  | fail => exact h.mono hkeep
  | lexeme l =>
    simp only [read]
    split
    · refine h.take s l ?_ _
      split
      · exact Nat.zero_le _
      · exact s.length_gap_le _
    · exact h.mono hkeep
  | phrase p => exact h.mono hkeep
  | seq a b => exact (h.push (.next b) rfl (.inl rfl)).mono hkeep
  | alt a b => exact (h.push (.orElse b st.spot) rfl (.inr rfl)).mono hkeep
  | many a => exact (h.push (.again a st.spot) rfl (.inr rfl)).mono hkeep
  | ahead choose => exact h.mono hkeep
  | peek a => exact (h.push (.peek st.spot) rfl (.inr rfl)).mono hkeep
  | reject a => exact (h.push (.reject st.spot) rfl (.inr rfl)).mono hkeep
  | node kind a =>
    have hopen : Light n [] (.build kind st.spot.out :: st.frames) := .opened h
    exact hopen.mono hkeep
  | extend kind head a =>
    simp only [read]
    split
    · exact h.mono hkeep
    · rename_i first outer hout
      split
      · exact h.mono hkeep
      · rw [hout] at h
        have hhead : Light n ([asHead head first] ++ outer) st.frames := by
          refine ⟨?_, h.back⟩
          rw [List.singleton_append, sizes_cons, size_asHead]
          exact h.now
        exact hhead.opened.mono hkeep
  | field part a => exact (h.push (.field part) rfl (.inl rfl)).mono hkeep
  | within change a => exact (h.push (.restore st.spot.mode) rfl (.inl rfl)).mono hkeep

theorem accept_light (h : Light n st.spot.out st.frames) : st.accept.Light (n + 1) := by
  obtain ⟨control, spot, frames, reach⟩ := st
  have hkeep : n ≤ n + 1 := Nat.le_succ n
  cases frames with
  | nil => exact Nat.le_trans h.now hkeep
  | cons f frames =>
    cases f with
    | next r => exact h.tail.mono hkeep
    | orElse r before => exact h.tail.mono hkeep
    | again r before =>
      simp only [accept]
      split
      · exact (h.tail.push (.again r spot) rfl (.inr rfl)).mono hkeep
      · exact h.tail.mono hkeep
    | peek before => exact (h.before rfl).mono hkeep
    | reject before => exact (h.before rfl).mono hkeep
    | build kind outer => exact h.closed spot.cursor
    | field part =>
      refine Light.mono ⟨?_, h.back.2⟩ hkeep
      rw [sizes_setPart]
      exact h.tail.now
    | restore mode => exact h.tail.mono hkeep

theorem fail_light (h : Light n st.spot.out st.frames) : st.fail.Light n := by
  obtain ⟨control, spot, frames, reach⟩ := st
  cases frames with
  | nil => trivial
  | cons f frames =>
    cases f with
    | orElse r before => exact h.before rfl
    | again r before => exact h.before rfl
    | reject before => exact h.before rfl
    | next r => exact h.tail
    | peek before => exact h.tail
    | build kind outer => exact h.tail
    | field part => exact h.tail
    | restore mode => exact h.tail

end State

theorem Turn.Light.mono {t : Turn} {n m : Nat} (h : t.Light n) (hnm : n ≤ m) : t.Light m := by
  cases t with
  | go st => exact Grammar.Light.mono h hnm
  | stop outcome =>
    cases outcome with
    | accepted out stop => exact Nat.le_trans h hnm
    | stuck reach => trivial

/-- A step leaves one node more at most, besides comments. -/
theorem State.step_light {st : State} {n : Nat} (h : Light n st.spot.out st.frames)
    (phrases : Phrase → Rule) (s : Source) : (st.step phrases s).Light (n + (s.chars.size + 1)) := by
  unfold step
  split
  · exact read_light h phrases s _
  · exact (accept_light h).mono (by omega)
  · exact (fail_light h).mono (by omega)

/-! ## Readings -/

theorem run_light (phrases : Phrase → Rule) (s : Source) {fuel n : Nat} {st : State}
    (h : Light n st.spot.out st.frames) {out : List Concrete} {stop : Source.Cursor}
    (hrun : run phrases s fuel st = .accepted out stop) :
    sizes out ≤ n + fuel * (s.chars.size + 1) := by
  induction fuel generalizing st n with
  | zero => cases hrun
  | succ fuel ih =>
    have hstep := State.step_light h phrases s
    rw [run] at hrun
    rw [Nat.succ_mul]
    split at hrun
    · next hnext =>
      rw [hnext] at hstep
      have hrest := ih hstep hrun
      omega
    · next hnext =>
      rw [hnext, hrun] at hstep
      exact Nat.le_trans hstep (by omega)

theorem sizes_read_le {phrases : Phrase → Rule} {s : Source} {out : List Concrete} {stop : Source.Cursor}
    (h : read phrases s = .accepted out stop) :
    sizes out ≤ fuelFor s.chars.size * (s.chars.size + 1) := by
  have hstart : Light 0 [] [] := ⟨Nat.le_refl 0, trivial⟩
  have hrun := run_light phrases s hstart h
  rwa [Nat.zero_add] at hrun

end Grammar

/-- The tree of a text has no more nodes than this, whatever the text is. -/
theorem Concrete.size_ofSource_le (language : Language) (text : String) :
    Branching.size (ofSource language text) ≤ 2 + Grammar.fuelFor text.length * (text.length + 1) := by
  have hsize : (Source.ofString text).chars.size = text.length := by
    show text.toList.toArray.size = text.length
    rw [List.size_toArray, String.length_toList]
  unfold ofSource
  cases hread : Grammar.read (Grammar.phrases language) (Source.ofString text) with
  | accepted out stop =>
    have hle := Grammar.sizes_read_le hread
    rw [hsize] at hle
    simp only [hread, program, size_ofChildren, Branching.sizes_reverse]
    omega
  | stuck reach =>
    simp only [hread, failed, program, size_ofChildren, Branching.sizes_cons, size_leaf,
      Branching.sizes_nil]
    omega

end Fanout
