import Fanout.Concrete.Tree
import Fanout.Grammar.Rule

/-!
# Reading a text by rules

* `Spot` : how far the text has been read, and the nodes left so far;
* `Frame` : what is still to be done when the rule at hand has accepted or failed;
* `Reach` : the furthest token that was tried, and what stood before it;
* `State.step` : one step of a reading, with a stack of frames instead of recursion, so that the depth
  of a text does not matter;
* `run` : reads a text step by step.

A comment becomes an extra node in front of the token behind it. A node does not begin with a
comment: comments before its first token stand before the node.
-/

namespace Fanout.Grammar
open Source

structure Spot where
  cursor : Cursor
  /-- The nodes left since the innermost open node was opened, the last one first. -/
  out : List Concrete
  mode : Mode

inductive Frame where
  | next (r : Rule)
  | orElse (r : Rule) (spot : Spot)
  | again (r : Rule) (spot : Spot)
  | peek (spot : Spot)
  | reject (spot : Spot)
  | build (kind : String) (outer : List Concrete)
  | field (part : Part)
  | restore (mode : Mode)

inductive Control where
  | read (r : Rule)
  | accept
  | fail

/-- The furthest token that was tried. -/
structure Reach where
  next : Cursor
  /-- The spot before the token, at the end of the last token that was accepted. -/
  spot : Spot
  frames : List Frame

/-- The nodes still open with the children they have so far, the last child first, from the inside
out. -/
def Frame.openNodes : List Concrete → List Frame → List (String × List Concrete)
  | out, [] => [("program", out)]
  | out, .build kind outer :: rest => (kind, out) :: openNodes outer rest
  | out, _ :: rest => openNodes out rest

def Reach.openNodes (r : Reach) : List (String × List Concrete) :=
  Frame.openNodes r.spot.out r.frames

def Reach.start : Reach := ⟨.start, ⟨.start, [], {}⟩, []⟩

def Reach.try (r : Reach) (next : Cursor) (spot : Spot) (frames : List Frame) : Reach :=
  if r.next.index < next.index then ⟨next, spot, frames⟩ else r

inductive Outcome where
  | accepted (out : List Concrete) (stop : Cursor)
  /-- No rule accepts the furthest token, and every token before it was accepted. -/
  | stuck (reach : Reach)

/-- The node with the given children, and behind it the comments that stand before it. -/
def build (kind : String) (cursor : Cursor) (children outer : List Concrete) : List Concrete :=
  let extras := children.takeWhile (·.label.extra)
  let own := children.dropWhile (·.label.extra)
  let start := match own with
    | [] => cursor.point
    | c :: _ => c.label.start
  Concrete.ofChildren { kind, start } own :: (extras.reverse ++ outer)

/-- A node as the first child of a node that is made of it. -/
def asHead (head : Option Head) (c : Concrete) : Concrete :=
  match head with
  | some h => c.withField h.name
  | none => c

/-- Gives the node left last a field. -/
def setPart (part : Part) : List Concrete → List Concrete
  | [] => []
  | c :: cs => c.withField part.name :: cs

def commentNode (s : Source) (c : Cursor × Cursor) : Concrete :=
  .leaf { kind := "comment", start := c.1.point, text := s.slice c.1 c.2, extra := true }

def Spot.take (spot : Spot) (s : Source) (l : Lexeme) (g : Gap) (stop : Cursor) : Spot :=
  if l.silent && g.comments.isEmpty then { spot with cursor := stop }
  else
    let comments := g.comments.map (commentNode s)
    let text := if l.named then s.slice g.next stop else ""
    let leaf := Concrete.leaf { kind := l.kind, start := g.next.point, text, named := l.named }
    { spot with
      cursor := stop
      out := if l.silent then comments ++ spot.out else leaf :: (comments ++ spot.out) }

def Spot.ahead (spot : Spot) (s : Source) : Ahead :=
  let g := s.gap spot.cursor
  let last := match spot.out with
    | [] => ""
    | c :: _ => c.label.kind
  ⟨s, g.next, g.broken, spot.mode, last⟩

structure State where
  control : Control
  spot : Spot
  frames : List Frame
  reach : Reach

inductive Turn where
  | go (st : State)
  | stop (outcome : Outcome)

namespace State

def read (phrases : Phrase → Rule) (s : Source) (st : State) : Rule → State
  | .done => { st with control := .accept }
  | .fail => { st with control := .fail }
  | .lexeme l =>
    let g := if l.immediate then ⟨st.spot.cursor, [], false⟩ else s.gap st.spot.cursor
    let st := { st with reach := st.reach.try g.next st.spot st.frames }
    match l.scan s g.next with
    | some stop => { st with control := .accept, spot := st.spot.take s l g stop }
    | none => { st with control := .fail }
  | .phrase p => { st with control := .read (phrases p) }
  | .seq a b => { st with control := .read a, frames := .next b :: st.frames }
  | .alt a b => { st with control := .read a, frames := .orElse b st.spot :: st.frames }
  | .many a => { st with control := .read a, frames := .again a st.spot :: st.frames }
  | .ahead choose => { st with control := .read (choose (st.spot.ahead s)) }
  | .peek a => { st with control := .read a, frames := .peek st.spot :: st.frames }
  | .reject a => { st with control := .read a, frames := .reject st.spot :: st.frames }
  | .node kind a =>
    { st with
      control := .read a
      spot := { st.spot with out := [] }
      frames := .build kind st.spot.out :: st.frames }
  | .extend kind head a =>
    match st.spot.out with
    | [] => { st with control := .fail }
    | first :: outer =>
      if first.label.extra then { st with control := .fail }
      else
        { st with
          control := .read a
          spot := { st.spot with out := [asHead head first] }
          frames := .build kind outer :: st.frames }
  | .field part a => { st with control := .read a, frames := .field part :: st.frames }
  | .within change a =>
    { st with
      control := .read a
      spot := { st.spot with mode := change st.spot.mode }
      frames := .restore st.spot.mode :: st.frames }

/-- Goes on when the rule at hand has accepted. -/
def accept (st : State) : Turn :=
  match st.frames with
  | [] => .stop (.accepted st.spot.out st.spot.cursor)
  | .next r :: frames => .go { st with control := .read r, frames }
  | .orElse _ _ :: frames => .go { st with frames }
  | .again r before :: frames =>
    if before.cursor.index < st.spot.cursor.index then
      .go { st with control := .read r, frames := .again r st.spot :: frames }
    else .go { st with frames }
  | .peek before :: frames => .go { st with spot := before, frames }
  | .reject before :: frames => .go { st with control := .fail, spot := before, frames }
  | .build kind outer :: frames =>
    let out := build kind st.spot.cursor st.spot.out.reverse outer
    .go { st with spot := { st.spot with out }, frames }
  | .field part :: frames =>
    .go { st with spot := { st.spot with out := setPart part st.spot.out }, frames }
  | .restore mode :: frames => .go { st with spot := { st.spot with mode }, frames }

/-- Goes back when the rule at hand has failed. -/
def fail (st : State) : Turn :=
  match st.frames with
  | [] => .stop (.stuck st.reach)
  | .orElse r before :: frames => .go { st with control := .read r, spot := before, frames }
  | .again _ before :: frames => .go { st with control := .accept, spot := before, frames }
  | .reject before :: frames => .go { st with control := .accept, spot := before, frames }
  | _ :: frames => .go { st with frames }

def step (phrases : Phrase → Rule) (s : Source) (st : State) : Turn :=
  match st.control with
  | .read r => .go (st.read phrases s r)
  | .accept => st.accept
  | .fail => st.fail

end State

/-- Reads until nothing is left to be done, for `fuel` steps at most. -/
def run (phrases : Phrase → Rule) (s : Source) : Nat → State → Outcome
  | 0, st => .stuck st.reach
  | fuel + 1, st =>
    match st.step phrases s with
    | .go next => run phrases s fuel next
    | .stop outcome => outcome

/-- Enough steps for any text of a length. -/
def fuelFor (size : Nat) : Nat := 4000 * (size + 10)

/-- Reads a whole text as the phrase that stands for a program. -/
def read (phrases : Phrase → Rule) (s : Source) : Outcome :=
  run phrases s (fuelFor s.chars.size) ⟨.read (phrases .program), ⟨.start, [], {}⟩, [], .start⟩

end Fanout.Grammar
