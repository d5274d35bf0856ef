import Fanout.Proofs.Tree.Walk
import Mathlib.Data.List.Forall2

/-!
# What a walk calls

* `Kind`, `Visitor.on` : the kinds of nodes, and what a visitor does at nodes of each;
* `callbacks` : the calls of a walk, as a visitor writes them down that does nothing else;
* `walk_eq_foldl_callbacks` : any visitor gathers what it makes of these calls, one after the other;
* `nodesAbove` : the nodes on the way from the root to the parent of a node;
* `walk_exact` : one call for each node of the tree, of the kind of the node, with the nodes above it.
-/

namespace Fanout.Node
open Branching

inductive Kind where
  | call
  | member
  | await
  | identifier
  | other
  deriving Repr, DecidableEq

def kind : Node → Kind
  | call _ _ _ => .call
  | member _ _ _ => .member
  | await _ _ => .await
  | identifier _ _ => .identifier
  | other _ _ _ => .other

/-! ## Calls -/

/-- A call of a visitor: which of its functions is called, and with what. -/
structure Callback where
  kind : Kind
  visit : Visit

namespace Visitor
variable {σ : Type} (f : Visitor σ)

def on : Kind → σ → Visit → σ
  | .call => f.call
  | .member => f.member
  | .await => f.await
  | .identifier => f.identifier
  | .other => f.other

/-- What a call makes of what has been gathered so far. -/
def answer (s : σ) (c : Callback) : σ := f.on c.kind s c.visit

theorem meet_eq (s : σ) (v : Visit) : f.meet s v = f.answer s ⟨v.node.kind, v⟩ := by
  obtain ⟨n, ancestors⟩ := v
  cases n <;> rfl

/-- Writes down each call, the last one first. -/
def recorder : Visitor (List Callback) where
  call calls v := ⟨.call, v⟩ :: calls
  member calls v := ⟨.member, v⟩ :: calls
  await calls v := ⟨.await, v⟩ :: calls
  identifier calls v := ⟨.identifier, v⟩ :: calls
  other calls v := ⟨.other, v⟩ :: calls

theorem answer_recorder (calls : List Callback) (c : Callback) : recorder.answer calls c = c :: calls := by
  obtain ⟨kind, v⟩ := c
  cases kind <;> rfl

end Visitor

/-- The calls that a walk makes, the first one first. -/
def callbacks (root : Node) : List Callback := (root.walk Visitor.recorder []).reverse

/-- The call that is due at a visit. -/
def Visit.callback (v : Visit) : Callback := ⟨v.node.kind, v⟩

theorem walk_eq_foldl_answer {σ : Type} (f : Visitor σ) (root : Node) (s : σ) :
    root.walk f s = ((visitsBelow [] root).map Visit.callback).foldl f.answer s := by
  rw [walk_eq_foldl, List.foldl_map]
  exact congrArg (fun g => (visitsBelow [] root).foldl g s) (funext fun s => funext (f.meet_eq s))

theorem callbacks_eq (root : Node) : callbacks root = (visitsBelow [] root).map Visit.callback := by
  have gather (cs calls : List Callback) : cs.foldl Visitor.recorder.answer calls = cs.reverse ++ calls := by
    induction cs generalizing calls with
    | nil => rfl
    | cons c cs ih => rw [List.foldl_cons, ih, Visitor.answer_recorder, List.reverse_cons, List.append_assoc,
        List.singleton_append]
  rw [callbacks, walk_eq_foldl_answer, gather, List.append_nil, List.reverse_reverse]

/-- Whatever a visitor does, a walk makes the calls that are written down, and no others. -/
theorem walk_eq_foldl_callbacks {σ : Type} (f : Visitor σ) (root : Node) (s : σ) :
    root.walk f s = (callbacks root).foldl f.answer s := by
  rw [callbacks_eq, walk_eq_foldl_answer]

/-! ## The nodes above -/

/-- The nodes on the way to an address, the root first and the node at the address left out. -/
def nodesAbove (root : Node) (p : Address) : List Node :=
  (List.range p.length).filterMap fun i => subtree? root (p.take i)

theorem nodesAbove_cons {n c : Node} {i : Nat} (h : n.children[i]? = some c) (p : Address) :
    nodesAbove n (i :: p) = n :: nodesAbove c p := by
  have hbelow (j : Nat) : subtree? n ((i :: p).take (j + 1)) = subtree? c (p.take j) := by
    rw [List.take_succ_cons]
    exact subtree?_cons_of_child h _
  unfold nodesAbove
  rw [List.length_cons, List.range_succ_eq_map, List.filterMap_cons, List.take_zero, subtree?_nil]
  dsimp only
  rw [List.filterMap_map]
  exact congrArg _ (congrArg (fun f => (List.range p.length).filterMap f) (funext hbelow))

/-- A walk comes to a node with the nodes above it on its stack, and below them what was there before. -/
theorem ancestors_visitAt {n c : Node} {p : Address} (h : subtree? n p = some c) (ancestors : List Node) :
    (visitAt ancestors n p).ancestors = (nodesAbove n p).reverse ++ ancestors := by
  induction p generalizing n ancestors with
  | nil => rfl
  | cons i p ih =>
    obtain ⟨b, hb, h⟩ := Option.bind_eq_some_iff.1 h
    rw [visitAt_cons hb, ih h, nodesAbove_cons hb, List.reverse_cons, List.append_assoc, List.singleton_append]

theorem hasAncestor_iff {q : Node → Bool} {v : Visit} : v.hasAncestor q = true ↔ ∃ n ∈ v.ancestors, q n = true := by
  rw [Visit.hasAncestor, List.any_eq_true]

/-! ## The walk -/

/-- The call is the one for the node at an address: of the kind of the node, and with the nodes above it, the
innermost first. -/
structure CallsFor (root : Node) (p : Address) (c : Callback) : Prop where
  node : subtree? root p = some c.visit.node
  kind : c.kind = c.visit.node.kind
  ancestors : c.visit.ancestors.reverse = nodesAbove root p
  /-- A search among the ancestors finds what there is above the node. -/
  hasAncestor (q : Node → Bool) : c.visit.hasAncestor q = true ↔ ∃ n ∈ nodesAbove root p, q n = true

theorem callsFor_visitAt {root : Node} {p : Address} (hp : p ∈ addresses root) :
    CallsFor root p (visitAt [] root p).callback := by
  obtain ⟨n, hn⟩ := exists_subtree hp
  have hnode := (visitAt_spec hn []).1
  have hancestors := ancestors_visitAt hn []
  rw [List.append_nil] at hancestors
  refine ⟨hn.trans (congrArg some hnode.symm), rfl, ?_, fun q => ?_⟩
  · exact List.reverse_eq_iff.2 hancestors
  · rw [hasAncestor_iff]
    show (∃ n ∈ (visitAt [] root p).ancestors, _) ↔ _
    simp only [hancestors, List.mem_reverse]

/-- The calls of a walk do not depend on the visitor. They are one for each node of the tree, in the order in which
what lies above comes first and then what lies to the left; and after each subtree the stack is what it was before. -/
theorem walk_exact (root : Node) :
    (∀ {σ : Type} (f : Visitor σ) (s : σ), root.walk f s = (callbacks root).foldl f.answer s) ∧
    List.Forall₂ (CallsFor root) (addresses root) (callbacks root) ∧
    ((addresses root).Nodup ∧ ∀ p, p ∈ addresses root ↔ (subtree? root p).isSome) ∧
    (addresses root).Pairwise (fun p q => p <+: q ∨ LeftOf p q) ∧
    ∀ {σ : Type} (f : Visitor σ) (n : Node) (w : Walk σ), (walkFrom f n w).stack = w.stack := by
  refine ⟨fun f s => walk_eq_foldl_callbacks f root s, ?_, ⟨addresses_nodup root, fun p => mem_addresses⟩, ?_,
    fun f n w => ?_⟩
  · rw [callbacks_eq, visitsBelow, List.map_map, List.forall₂_map_right_iff, List.forall₂_same]
    exact fun p hp => callsFor_visitAt hp
  · exact (addresses_pairwise_lt root).imp isPrefix_or_leftOf_of_lt
  · rw [walkFrom_eq_foldl]

/-- In `await all(ids)` the callee is met before the argument, both below the call and the await. -/
example :
    (callbacks (.await ⟨1, 0⟩ (.call ⟨1, 6⟩ (.identifier ⟨1, 6⟩ "all") [.identifier ⟨1, 10⟩ "ids"]))).map
        (fun c => (c.kind, c.visit.node.place, c.visit.ancestors.map kind)) =
      [(.await, ⟨1, 0⟩, []), (.call, ⟨1, 6⟩, [.await]), (.identifier, ⟨1, 6⟩, [.call, .await]),
        (.identifier, ⟨1, 10⟩, [.call, .await])] := by
  decide

end Fanout.Node
