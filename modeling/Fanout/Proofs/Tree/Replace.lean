import Fanout.Proofs.Tree.Walk

/-!
# Replacing a subtree

* `Node.modifyChild` : a node with one of its children changed;
* `Node.replaceAt` : a tree with another subtree at an address;
* `objectOf?_modifyChild` : what a rule sees of a node that is changed below;
* `children_replaceAt` : below the root one child is replaced in, and the others stay;
* `flatMap_children_replaceAt` : so a list that is gathered from the children changes in one stretch.
-/

namespace Fanout.Node
open Branching

/-- The node with the child at an index changed, if there is one. -/
def modifyChild (f : Node → Node) : Node → Nat → Node
  | call l callee arguments, 0 => call l (f callee) arguments
  | call l callee arguments, i + 1 => call l callee (arguments.modify i f)
  | member l object property, 0 => member l (f object) property
  | await l argument, 0 => await l (f argument)
  | other l kind children, i => other l kind (children.modify i f)
  | n, _ => n

/-- The tree with `new` in place of the subtree at an address, if there is one. -/
def replaceAt (new : Node) : Address → Node → Node
  | [], _ => new
  | i :: p, n => n.modifyChild (replaceAt new p) i

theorem children_modifyChild (f : Node → Node) (n : Node) (i : Nat) :
    (n.modifyChild f i).children = n.children.modify i f := by
  cases n <;> cases i <;> simp [modifyChild, children]

theorem place_modifyChild (f : Node → Node) (n : Node) (i : Nat) : (n.modifyChild f i).place = n.place := by
  cases n <;> cases i <;> rfl

theorem isAwait_modifyChild (f : Node → Node) (n : Node) (i : Nat) :
    (n.modifyChild f i).isAwait = n.isAwait := by
  cases n <;> cases i <;> rfl

theorem isNamed_modifyChild (f : Node → Node) (n : Node) (i : Nat) (name : String) :
    (n.modifyChild f i).isNamed name = n.isNamed name := by
  cases n <;> cases i <;> rfl

/-- The object of a member access is its first child. -/
theorem objectOf?_modifyChild (f : Node → Node) (n : Node) (i : Nat) (property : String) :
    (n.modifyChild f i).objectOf? property =
      (n.objectOf? property).map fun object => if i = 0 then f object else object := by
  cases n with
  | member l object name =>
    by_cases hname : name = property
    · cases i <;> simp [modifyChild, objectOf?, hname]
    · cases i <;> simp [modifyChild, objectOf?, hname]
  | call l callee arguments => cases i <;> rfl
  | await l argument => cases i <;> rfl
  | identifier l name => rfl
  | other l kind children => rfl

theorem children_replaceAt (new : Node) (i : Nat) (p : Address) (n : Node) :
    (replaceAt new (i :: p) n).children = n.children.modify i (replaceAt new p) :=
  children_modifyChild _ n i

/-- What is gathered from the children is gathered from those on the left, from the child that is replaced
in, and from those on the right. -/
theorem flatMap_children_replaceAt {α : Type} (f : Node → List α) {n c : Node} {i : Nat}
    (h : n.children[i]? = some c) (p : Address) :
    ∃ left right, n.children.flatMap f = left ++ f c ++ right ∧
      ∀ new, (replaceAt new (i :: p) n).children.flatMap f =
        left ++ f (replaceAt new p c) ++ right := by
  obtain ⟨hi, rfl⟩ := List.getElem?_eq_some_iff.1 h
  refine ⟨(n.children.take i).flatMap f, (n.children.drop (i + 1)).flatMap f, ?_, fun new => ?_⟩
  · conv_lhs => rw [← List.take_append_drop i n.children, List.drop_eq_getElem_cons hi]
    rw [List.flatMap_append, List.flatMap_cons, List.append_assoc]
  · rw [children_replaceAt, List.modify_eq_take_cons_drop hi, List.flatMap_append, List.flatMap_cons,
      List.append_assoc]

end Fanout.Node
