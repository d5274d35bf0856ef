import Fanout.Concrete.Tree
import Fanout.Tree.Node

/-!
# From concrete trees to syntax trees

* `Concrete.lower` : the syntax tree of a concrete tree, or the line where it is too deep;
* `Concrete.lowerAll` : the same without a limit of the depth.

Comments, tokens without a name, type arguments of calls and names of properties leave no node. The
arguments of a call are lowered before its callee, which matters only for the line of the first node
that lies too deep.
-/

namespace Fanout.Concrete

/-- The deepest level that a node may lie on, where the root lies on level zero. -/
def maxDepth : Nat := 512

def place (c : Concrete) : Location := c.label.start.location

/-- Whether a node counts: it has a name and is no comment. -/
def counts (c : Concrete) : Bool := c.label.named && !c.label.extra

/-- Whether a node fills a field. No extra does. -/
def fills (name : String) (c : Concrete) : Bool := !c.label.extra && c.label.field == some name

def child? (name : String) (children : List Concrete) : Option Concrete := children.find? (fills name)

inductive Shape where
  | call (callee : Concrete) (arguments : List Concrete)
  | member (object : Concrete) (property : String)
  | await (argument : Concrete)
  | identifier (name : String)
  | other (kind : String) (children : List Concrete)

/-- The arguments in the node behind a callee: those in an argument list, or a template itself. -/
def argumentsOf (children : List Concrete) : List Concrete :=
  match child? "arguments" children with
  | some list => if list.label.kind == "arguments" then list.children.filter counts else [list]
  | none => []

def otherShape (label : Label) (children : List Concrete) : Shape :=
  .other label.kind (children.filter counts)

def shape : Concrete → Shape
  | node label _ children =>
    if label.kind = "call_expression" then
      match child? "function" children with
      | some callee => .call callee (argumentsOf children)
      | none => otherShape label children
    else if label.kind = "member_expression" then
      match child? "object" children, child? "property" children with
      | some object, some property => .member object property.label.text
      | _, _ => otherShape label children
    else if label.kind = "await_expression" then
      match children.find? counts with
      | some argument => .await argument
      | none => otherShape label children
    else if label.kind = "identifier" then .identifier label.text
    else otherShape label children

/-- The part of a shape that may still be lowered. -/
def Shape.parts : Shape → List Concrete
  | .call callee arguments => callee :: arguments
  | .member object _ => [object]
  | .await argument => [argument]
  | .identifier _ => []
  | .other _ children => children

theorem sizeOf_lt_of_mem_children {c d : Concrete} (h : d ∈ c.children) : sizeOf d < sizeOf c := by
  cases c with
  | node label e children =>
    have := List.sizeOf_lt_of_mem (show d ∈ children from h)
    simp only [node.sizeOf_spec]
    omega

theorem mem_of_child? {name : String} {children : List Concrete} {c : Concrete}
    (h : child? name children = some c) : c ∈ children := List.mem_of_find?_eq_some h

/-- What a node becomes is made of smaller nodes. -/
theorem sizeOf_lt_of_mem_parts {c d : Concrete} (h : d ∈ c.shape.parts) : sizeOf d < sizeOf c := by
  obtain ⟨label, e, children⟩ := c
  have inner : ∀ x ∈ children, sizeOf x < sizeOf (node label e children) :=
    fun x hx => sizeOf_lt_of_mem_children (c := node label e children) hx
  have kept : ∀ x ∈ (otherShape label children).parts, sizeOf x < sizeOf (node label e children) :=
    fun x hx => inner x (List.mem_filter.1 hx).1
  have args : ∀ x ∈ argumentsOf children, sizeOf x < sizeOf (node label e children) := by
    intro x hx
    unfold argumentsOf at hx
    split at hx
    · rename_i list hlist
      have hl := inner list (mem_of_child? hlist)
      split at hx
      · exact Nat.lt_trans (sizeOf_lt_of_mem_children (List.mem_filter.1 hx).1) hl
      · simp only [List.mem_singleton] at hx
        exact hx ▸ hl
    · simp at hx
  simp only [shape] at h
  split at h
  · split at h
    · rename_i callee hc
      rcases List.mem_cons.1 h with rfl | h
      · exact inner _ (mem_of_child? hc)
      · exact args _ h
    · exact kept _ h
  · split at h
    · split at h
      · rename_i object _ ho _
        simp only [Shape.parts, List.mem_singleton] at h
        exact h ▸ inner _ (mem_of_child? ho)
      · exact kept _ h
    · split at h
      · split at h
        · rename_i argument ha
          simp only [Shape.parts, List.mem_singleton] at h
          exact h ▸ inner _ (List.mem_of_find?_eq_some ha)
        · exact kept _ h
      · split at h
        · simp [Shape.parts] at h
        · exact kept _ h

/-! ## Lowering -/

/-- Why a tree is not lowered: a node on this line lies below the deepest level. -/
structure TooDeep where
  limit : Nat
  line : UInt32
  deriving Repr, DecidableEq

/-- The syntax tree of a concrete tree that may have `levels` levels, or the line of the first node
met below them. -/
def lowerWithin : Nat → Concrete → Except TooDeep Node
  | 0, c => .error ⟨maxDepth, c.place.line⟩
  | levels + 1, c =>
    match c.shape with
    | .call callee arguments => do
      let arguments ← arguments.mapM (lowerWithin levels)
      let callee ← lowerWithin levels callee
      pure (.call c.place callee arguments)
    | .member object property => do
      let object ← lowerWithin levels object
      pure (.member c.place object property)
    | .await argument => do
      let argument ← lowerWithin levels argument
      pure (.await c.place argument)
    | .identifier name => pure (.identifier c.place name)
    | .other kind children => do
      let children ← children.mapM (lowerWithin levels)
      pure (.other c.place kind children)

def lower (c : Concrete) : Except TooDeep Node := lowerWithin (maxDepth + 1) c

/-- The syntax tree of a concrete tree of any depth. -/
def lowerAll (c : Concrete) : Node :=
  match _h : c.shape with
  | .call callee arguments =>
    .call c.place (lowerAll callee) (arguments.attach.map fun a => lowerAll a.val)
  | .member object property => .member c.place (lowerAll object) property
  | .await argument => .await c.place (lowerAll argument)
  | .identifier name => .identifier c.place name
  | .other kind children => .other c.place kind (children.attach.map fun a => lowerAll a.val)
termination_by sizeOf c
decreasing_by
  all_goals
    apply sizeOf_lt_of_mem_parts
    rw [_h]
    simp [Shape.parts, Subtype.property]

end Fanout.Concrete
