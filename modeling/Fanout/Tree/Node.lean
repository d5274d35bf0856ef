import Fanout.Source.Point

/-!
# Syntax trees

* `Node` : a tree of calls, member accesses, awaits, names and all else, each with its place;
* `Node.children` : the direct children in source order, a call's callee first;
* `Node.Visitor` : what is done at a node of each kind;
* `Node.walk` : a walk that meets every node once, a node before its children, and keeps the nodes
  that it is inside of on a stack.
-/

namespace Fanout

inductive Node where
  | call (place : Location) (callee : Node) (arguments : List Node)
  /-- Access to a named property, optional or not. -/
  | member (place : Location) (object : Node) (property : String)
  | await (place : Location) (argument : Node)
  | identifier (place : Location) (name : String)
  | other (place : Location) (kind : String) (children : List Node)
  deriving Repr, Inhabited

namespace Node

def place : Node → Location
  | call l _ _ | member l _ _ | await l _ | identifier l _ | other l _ _ => l

def children : Node → List Node
  | call _ callee arguments => callee :: arguments
  | member _ object _ => [object]
  | await _ argument => [argument]
  | identifier _ _ => []
  | other _ _ children => children

def isAwait : Node → Bool
  | await _ _ => true
  | _ => false

/-- Whether a node is the name `name`. -/
def isNamed (name : String) : Node → Bool
  | identifier _ n => n == name
  | _ => false

/-- The object of a member access to `property`. -/
def objectOf? (property : String) : Node → Option Node
  | member _ object p => if p == property then some object else none
  | _ => none

/-! ## Walking -/

structure Visit where
  node : Node
  /-- The proper ancestors of the node, the parent first. -/
  ancestors : List Node

/-- Whether a node above the visited one satisfies `p`. -/
def Visit.hasAncestor (p : Node → Bool) (v : Visit) : Bool := v.ancestors.any p

def Visit.underAwait (v : Visit) : Bool := v.hasAncestor isAwait

/-- What a walk does at a node of each kind. -/
structure Visitor (σ : Type) where
  call : σ → Visit → σ := fun s _ => s
  member : σ → Visit → σ := fun s _ => s
  await : σ → Visit → σ := fun s _ => s
  identifier : σ → Visit → σ := fun s _ => s
  other : σ → Visit → σ := fun s _ => s

namespace Visitor
variable {σ : Type}

def every (f : σ → Visit → σ) : Visitor σ := ⟨f, f, f, f, f⟩

def meet (f : Visitor σ) (s : σ) (v : Visit) : σ :=
  match v.node with
  | .call _ _ _ => f.call s v
  | .member _ _ _ => f.member s v
  | .await _ _ => f.await s v
  | .identifier _ _ => f.identifier s v
  | .other _ _ _ => f.other s v

end Visitor

/-- A walk under way: the nodes that it is inside of, the innermost first, and what it has gathered. -/
structure Walk (σ : Type) where
  stack : List Node
  state : σ

namespace Walk
variable {σ : Type}

def enter (w : Walk σ) (f : Visitor σ) (n : Node) : Walk σ :=
  ⟨n :: w.stack, f.meet w.state ⟨n, w.stack⟩⟩

def leave (w : Walk σ) : Walk σ := { w with stack := w.stack.tail }

end Walk

mutual

/-- Takes a walk through a tree and back to where it stood. -/
def walkFrom {σ : Type} (f : Visitor σ) : Node → Walk σ → Walk σ
  | n@(call _ callee arguments), w =>
    (walkList f arguments (walkFrom f callee (w.enter f n))).leave
  | n@(member _ object _), w => (walkFrom f object (w.enter f n)).leave
  | n@(await _ argument), w => (walkFrom f argument (w.enter f n)).leave
  | n@(identifier _ _), w => (w.enter f n).leave
  | n@(other _ _ children), w => (walkList f children (w.enter f n)).leave

def walkList {σ : Type} (f : Visitor σ) : List Node → Walk σ → Walk σ
  | [], w => w
  | c :: cs, w => walkList f cs (walkFrom f c w)

end

/-- What a visitor gathers in a tree, in pre-order. -/
def walk {σ : Type} (root : Node) (f : Visitor σ) (s : σ) : σ := (walkFrom f root ⟨[], s⟩).state

/-- Every node of a tree in pre-order. -/
def visits (root : Node) : List Visit := (root.walk (.every fun out v => v :: out) []).reverse

end Node
end Fanout
