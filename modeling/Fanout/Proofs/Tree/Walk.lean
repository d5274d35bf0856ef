import Mathlib.Data.List.Basic
import Fanout.Proofs.Tree.Address
import Fanout.Tree.Node

/-!
# What a walk meets

* `visitAt` : a node of a tree with its ancestors, by the address of the node;
* `visitsBelow` : what a walk has to meet in a tree, in pre-order;
* `walkFrom_eq_foldl` : a walk meets just that, and leaves its stack as it found it;
* `visits_eq` : the visits of a tree are its nodes in the order of their addresses.
-/

namespace Fanout.Node
open Branching

theorem sizeOf_lt_of_mem_children {n c : Node} (h : c ∈ n.children) : sizeOf c < sizeOf n := by
  cases n with
  | call l callee arguments =>
    obtain rfl | h := List.mem_cons.1 h
    · simp only [call.sizeOf_spec]; omega
    · have := List.sizeOf_lt_of_mem h
      simp only [call.sizeOf_spec]; omega
  | member l object p =>
    obtain rfl := List.mem_singleton.1 h
    simp only [member.sizeOf_spec]; omega
  | await l argument =>
    obtain rfl := List.mem_singleton.1 h
    simp only [await.sizeOf_spec]; omega
  | identifier l name => cases h
  | other l kind children =>
    have := List.sizeOf_lt_of_mem (show c ∈ children from h)
    simp only [other.sizeOf_spec]; omega

instance : Branching Node where
  children := Node.children
  wellFounded := Subrelation.wf sizeOf_lt_of_mem_children (measure sizeOf).wf

/-! ## Visits by address -/

/-- The node at an address, in a tree that lies below `ancestors`. -/
def visitAt (ancestors : List Node) : Node → Address → Visit
  | n, [] => ⟨n, ancestors⟩
  | n, i :: p =>
    match n.children[i]? with
    | some c => visitAt (n :: ancestors) c p
    | none => ⟨n, ancestors⟩

theorem visitAt_cons {n c : Node} {i : Nat} (h : n.children[i]? = some c) (ancestors : List Node)
    (p : Address) : visitAt ancestors n (i :: p) = visitAt (n :: ancestors) c p := by
  rw [visitAt, h]

/-- At an address stands its node, and the ancestors are one for each step of the address. -/
theorem visitAt_spec {n c : Node} {p : Address} (h : subtree? n p = some c) (ancestors : List Node) :
    (visitAt ancestors n p).node = c ∧
      (visitAt ancestors n p).ancestors.length = ancestors.length + p.length := by
  induction p generalizing n ancestors with
  | nil =>
    cases h
    exact ⟨rfl, rfl⟩
  | cons i p ih =>
    obtain ⟨b, hb, h⟩ := Option.bind_eq_some_iff.1 h
    rw [visitAt_cons hb]
    obtain ⟨hnode, hlen⟩ := ih h (n :: ancestors)
    refine ⟨hnode, ?_⟩
    rw [hlen, List.length_cons, List.length_cons]
    omega

/-- A walk comes to the nodes of a subtree with the ancestors of its root. -/
theorem visitAt_append {n s : Node} {p : Address} (h : subtree? n p = some s) (ancestors : List Node)
    (q : Address) :
    visitAt ancestors n (p ++ q) = visitAt (visitAt ancestors n p).ancestors s q := by
  induction p generalizing n ancestors with
  | nil =>
    cases h
    rfl
  | cons i p ih =>
    obtain ⟨c, hc, h⟩ := Option.bind_eq_some_iff.1 h
    rw [List.cons_append, visitAt_cons hc, visitAt_cons hc]
    exact ih h (n :: ancestors)

/-- What a walk meets in a tree that lies below `ancestors`. -/
def visitsBelow (ancestors : List Node) (n : Node) : List Visit :=
  (addresses n).map (visitAt ancestors n)

theorem visitsBelow_eq (ancestors : List Node) (n : Node) :
    visitsBelow ancestors n = ⟨n, ancestors⟩ :: n.children.flatMap (visitsBelow (n :: ancestors)) := by
  have h := List.flatMap_map (f := Prod.fst) (g := visitsBelow (n :: ancestors))
    (l := n.children.zipIdx)
  rw [List.zipIdx_map_fst] at h
  rw [h, visitsBelow, addresses_eq, List.map_cons, List.map_flatMap]
  refine congrArg _ (List.flatMap_congr fun x hx => ?_)
  rw [List.map_map]
  refine List.map_congr_left fun p _ => ?_
  exact visitAt_cons (List.mem_zipIdx_iff_getElem?.1 hx) ancestors p

/-! ## The walk -/

section
variable {σ : Type} (f : Visitor σ)

theorem walkFrom_eq (n : Node) (w : Walk σ) :
    walkFrom f n w = (walkList f n.children (w.enter f n)).leave := by
  cases n <;> rfl

/-- A walk through some trees, when every one of them is met as it has to be. -/
theorem walkList_eq_foldl {l : List Node}
    (h : ∀ c ∈ l, ∀ w : Walk σ,
      walkFrom f c w = ⟨w.stack, (visitsBelow w.stack c).foldl f.meet w.state⟩) (w : Walk σ) :
    walkList f l w = ⟨w.stack, (l.flatMap (visitsBelow w.stack)).foldl f.meet w.state⟩ := by
  induction l generalizing w with
  | nil => rfl
  | cons c l ih =>
    rw [walkList, h c List.mem_cons_self, ih fun d hd => h d (List.mem_cons_of_mem _ hd),
      List.flatMap_cons, List.foldl_append]

/-- A walk meets the nodes of a tree in pre-order, each with the nodes above it, and leaves its stack
as it found it. -/
theorem walkFrom_eq_foldl (n : Node) (w : Walk σ) :
    walkFrom f n w = ⟨w.stack, (visitsBelow w.stack n).foldl f.meet w.state⟩ := by
  induction n using Branching.induction generalizing w with
  | step n ih =>
    rw [walkFrom_eq, walkList_eq_foldl f ih (l := n.children), visitsBelow_eq, List.foldl_cons]
    rfl

theorem walk_eq_foldl (root : Node) (s : σ) :
    root.walk f s = (visitsBelow [] root).foldl f.meet s := by
  rw [walk, walkFrom_eq_foldl]

end

theorem meet_every {σ : Type} (f : σ → Visit → σ) (s : σ) (v : Visit) :
    (Visitor.every f).meet s v = f s v := by
  unfold Visitor.meet
  split <;> rfl

theorem visits_eq (root : Node) : root.visits = visitsBelow [] root := by
  have gather (vs out : List Visit) :
      vs.foldl (Visitor.every fun out v => v :: out).meet out = vs.reverse ++ out := by
    induction vs generalizing out with
    | nil => rfl
    | cons v vs ih => rw [List.foldl_cons, ih, meet_every]; simp
  rw [visits, walk_eq_foldl, gather, List.append_nil, List.reverse_reverse]

end Fanout.Node
