import Fanout.Grammar.Machine
import Fanout.Source.Language

/-!
# Places before an error

* `Boundary` : a place before an error up to which a text is kept;
* `Boundary.before` : the places before the trees that stand before an error;
* `Boundary.here` : the place of the error itself.

A tree that stands right before an error may not be closed yet, so that the places inside it count as
well. Statements in a row form a group.
-/

namespace Fanout.Grammar
open Source

/-- A place before which the text is kept. -/
structure Boundary where
  start : Cursor
  /-- How many trees stand between the place and the token where the reading is stuck. -/
  trees : Nat
  kind : String
  /-- Whether a statement ended before the place without a semicolon, if one ended there. -/
  soft : Bool

namespace Boundary

/-- How many groups of trees before an error may be left out. -/
def depthLimit : Nat := 16
def placeLimit : Nat := 40

/-- Whether a token, or the end of the text, can follow at a boundary. Within literal text no token
does, and the text ends between the statements of a program only. -/
def admits (b : Boundary) (first : Option Char) : Bool :=
  match b.kind, first with
  | "string", _ | "template_string", _ | "regex", _ => false
  | "jsx_element", some ch => ch == '<' || ch == '\x7b'
  | kind, none => kind == "program" || b.trees == 0
  | _, some _ => true

/-- Whether nothing but blanks stands before an index on its line. -/
def startsLine (s : Source) : Nat → Bool
  | 0 => true
  | i + 1 =>
    match s.chars[i]? with
    | some ch => isLineEnd ch || (isGap ch && startsLine s i)
    | none => false

def ofPlace (l : Language) (s : Source) (start : Cursor) (trees : Nat) (kind : String) : Boundary :=
  ⟨start, trees, kind, Lexeme.endsBefore l.typed s start (startsLine s start.index)⟩

structure Standing where
  tree : Concrete
  kind : String
  /-- How many trees stand from it to the error. -/
  count : Nat
  /-- How many groups of trees stand from it to the error. -/
  depth : Nat

/-- Whether a tree is grouped with its neighbours of the same sort. -/
def isItem (tree : Concrete) : Bool :=
  let kind := tree.label.kind
  kind.endsWith "_statement" || kind.endsWith "_declaration" || kind.endsWith "_definition" ||
    kind == "switch_case"

def solid (trees : List Concrete) : List Concrete := trees.filter (!·.label.extra)

/-- The trees of a node, the last one first, where `outer` is the kind of the node that is open before
its first tree. A group of items is left out as a whole, but for an item right before the error. -/
def standings (kind outer : String) : Nat → Nat → Bool → List Concrete → List Standing
  | _, _, _, [] => []
  | count, depth, grouped, tree :: before =>
    let item := isItem tree
    let depth := if grouped && item then depth else depth + 1
    let more := standings kind outer (count + 1) depth item before
    if item && (before.head?.map isItem).getD false && count > 0 then more
    else ⟨tree, if before.isEmpty then outer else kind, count + 1, depth⟩ :: more

/-- The trees in open nodes, the last one first. -/
def openTrees : Nat → Nat → List (String × List Concrete) → List Standing
  | _, _, [] => []
  | count, depth, (kind, out) :: nodes =>
    let outer := ((nodes.find? fun n => n.2.any (!·.label.extra)).map (·.1)).getD "program"
    let trees := solid out
    let here := standings kind outer count depth false trees
    here ++ openTrees (count + trees.length) ((here.getLast?.map (·.depth)).getD depth) nodes

/-- The trees inside a tree that is the last one before an error, down to a level. They stand for
themselves where the tree is not yet closed. -/
def innerTrees : Nat → Concrete → List Standing
  | 0, _ => []
  | level + 1, tree =>
    let children := solid tree.children
    let inner := (children.getLast?.map (innerTrees level)).getD []
    let kind := tree.label.kind
    inner ++ standings kind kind 0 0 false (children.drop 1).reverse

/-- The places before the trees that stand before an error. Those that leave out less come first, and
of two that leave out as much the later one. -/
def before (l : Language) (s : Source) (reach : Reach) : List Boundary :=
  let outer := openTrees 0 0 reach.openNodes
  let inner := (outer.head?.map fun t => innerTrees depthLimit t.tree).getD []
  let near := (inner ++ outer).filter (·.depth ≤ depthLimit)
  ((near.mergeSort fun a b => a.depth ≤ b.depth).take placeLimit).map fun t =>
    .ofPlace l s (s.cursorAt t.tree.label.start) t.count t.kind

def here (l : Language) (s : Source) (reach : Reach) (next : Cursor) : Boundary :=
  .ofPlace l s next 0 ((reach.openNodes.head?.map (·.1)).getD "program")

end Boundary
end Fanout.Grammar
