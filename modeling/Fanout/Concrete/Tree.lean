import Fanout.Source.Point

/-!
# Concrete syntax trees

* `Label` : what a node says of itself: its kind, where it starts, the field of its parent that it
  fills, and whether it is named, an extra (a comment), an error or a token that is missing;
* `Concrete` : a label, the flag that an error lies in the subtree, and the children in source order;
* `Concrete.Flagged` : every flag of a tree says whether an error lies below it.
-/

namespace Fanout

structure Label where
  kind : String
  start : Point
  /-- The characters that a leaf stands for. -/
  text : String := ""
  named : Bool := true
  extra : Bool := false
  error : Bool := false
  missing : Bool := false
  field : Option String := none
  deriving Repr, DecidableEq, Inhabited

def Label.broken (l : Label) : Bool := l.error || l.missing

inductive Concrete where
  | node (label : Label) (hasError : Bool) (children : List Concrete)
  deriving Repr, Inhabited

namespace Concrete

def label : Concrete → Label
  | node l _ _ => l

def hasError : Concrete → Bool
  | node _ e _ => e

def children : Concrete → List Concrete
  | node _ _ cs => cs

/-- The node with its flag set from its own label and from its children's flags. -/
def ofChildren (label : Label) (children : List Concrete) : Concrete :=
  node label (label.broken || children.any hasError) children

def leaf (label : Label) : Concrete := ofChildren label []

def withField (name : String) : Concrete → Concrete
  | node l e cs => node { l with field := some name } e cs

mutual

/-- Whether some node of the tree is an error or missing. -/
def anyBroken : Concrete → Bool
  | node l _ cs => l.broken || anyBrokenList cs

def anyBrokenList : List Concrete → Bool
  | [] => false
  | c :: cs => c.anyBroken || anyBrokenList cs

/-- Whether every flag says truly whether an error lies in its subtree. -/
def flagged : Concrete → Bool
  | node l e cs => (e == (l.broken || anyBrokenList cs)) && flaggedList cs

def flaggedList : List Concrete → Bool
  | [] => true
  | c :: cs => c.flagged && flaggedList cs

end
end Concrete
end Fanout
