import Fanout.Concrete.Tree

/-!
# Moving about in a concrete tree

* `Cursor` : a node of a tree, with what is needed to go on from it;
* `Cursor.firstChild?`, `Cursor.nextSibling?`, `Cursor.parent?` : the moves. None of them leaves the tree
  that the cursor started in;
* `Cursor.onward?` : the next node that lies not below the node at hand;
* `Cursor.search` : the first node from the cursor on that is an error or missing;
* `firstBroken?` : the same in a whole tree.
-/

namespace Fanout.Concrete

/-- A node of a tree, as it is reached from the root. -/
structure Cursor where
  node : Concrete
  right : List Concrete
  /-- The nodes above it, the parent first, each with the siblings on its right. -/
  above : List (Concrete × List Concrete)

namespace Cursor

/-- At the root of a tree. Siblings that the root may have in a larger tree are out of reach. -/
def start (root : Concrete) : Cursor := ⟨root, [], []⟩

def firstChild? (c : Cursor) : Option Cursor :=
  match c.node.children with
  | [] => none
  | d :: ds => some ⟨d, ds, (c.node, c.right) :: c.above⟩

def nextSibling? (c : Cursor) : Option Cursor :=
  match c.right with
  | [] => none
  | d :: ds => some ⟨d, ds, c.above⟩

def parent? (c : Cursor) : Option Cursor :=
  match c.above with
  | [] => none
  | (n, right) :: above => some ⟨n, right, above⟩

theorem length_above_of_parent? {c p : Cursor} (h : c.parent? = some p) :
    p.above.length < c.above.length := by
  unfold parent? at h
  split at h
  · cases h
  · rename_i n right above habove
    cases h
    rw [habove]
    exact Nat.lt_succ_self _

/-- The next sibling of the node, or of the nearest node above it that has one. -/
def onward? (c : Cursor) : Option Cursor :=
  match c.nextSibling? with
  | some d => some d
  | none =>
    match _h : c.parent? with
    | some p => p.onward?
    | none => none
termination_by c.above.length
decreasing_by exact length_above_of_parent? _h

/-! ## What lies ahead -/

/-- The trees that come behind the tree at the cursor: those on its right, and then those on the right of
the nodes above it. -/
def rest (c : Cursor) : List Concrete := c.right ++ c.above.flatMap Prod.snd

theorem rest_firstChild? {c d : Cursor} (h : c.firstChild? = some d) :
    d.node :: d.rest = c.node.children ++ c.rest := by
  unfold firstChild? at h
  split at h
  · cases h
  · rename_i n ns hn
    cases h
    rw [hn]
    simp [rest]

theorem rest_nextSibling? {c d : Cursor} (h : c.nextSibling? = some d) :
    c.rest = d.node :: d.rest := by
  unfold nextSibling? at h
  split at h
  · cases h
  · rename_i n ns hn
    cases h
    rw [rest, hn]
    rfl

theorem rest_parent? {c p : Cursor} (hc : c.nextSibling? = none) (h : c.parent? = some p) :
    c.rest = p.rest := by
  obtain ⟨n, right, above⟩ := c
  cases right with
  | cons d ds => cases hc
  | nil =>
    cases above with
    | nil => cases h
    | cons x above =>
      cases h
      rfl

theorem rest_eq_nil {c : Cursor} (hc : c.nextSibling? = none) (h : c.parent? = none) : c.rest = [] := by
  obtain ⟨n, right, above⟩ := c
  cases right with
  | cons d ds => cases hc
  | nil =>
    cases above with
    | nil => rfl
    | cons x above => cases h

theorem onward?_of_nextSibling? {c d : Cursor} (h : c.nextSibling? = some d) : c.onward? = some d := by
  rw [onward?, h]

theorem onward?_of_parent? {c : Cursor} (hc : c.nextSibling? = none) :
    c.onward? = c.parent?.bind onward? := by
  rw [onward?, hc]
  dsimp only
  split
  · rename_i p hp
    rw [hp, Option.bind_some]
  · rename_i hp
    rw [hp, Option.bind_none]

/-- Going on drops the tree at the cursor, and nothing else. -/
theorem rest_onward? (c : Cursor) :
    (∀ d, c.onward? = some d → c.rest = d.node :: d.rest) ∧ (c.onward? = none → c.rest = []) := by
  induction c using onward?.induct with
  | case1 c d hd =>
    rw [onward?_of_nextSibling? hd]
    refine ⟨?_, nofun⟩
    intro e he
    cases he
    exact rest_nextSibling? hd
  | case2 c hc p hp ih =>
    rw [onward?_of_parent? hc, hp, Option.bind_some, rest_parent? hc hp]
    exact ih
  | case3 c hc hp =>
    rw [onward?_of_parent? hc, hp, Option.bind_none]
    exact ⟨nofun, fun _ => rest_eq_nil hc hp⟩

/-- A bound on the nodes in some trees. -/
noncomputable def weight : List Concrete → Nat
  | [] => 0
  | c :: trees => sizeOf c + weight trees

theorem weight_cons (c : Concrete) (trees : List Concrete) :
    weight (c :: trees) = sizeOf c + weight trees := rfl

theorem weight_append (ts us : List Concrete) : weight (ts ++ us) = weight ts + weight us := by
  induction ts with
  | nil => exact (Nat.zero_add _).symm
  | cons c ts ih => rw [List.cons_append, weight_cons, weight_cons, ih, Nat.add_assoc]

theorem weight_lt_sizeOf (trees : List Concrete) : weight trees < sizeOf trees := by
  induction trees with
  | nil => simp [weight]
  | cons c trees ih =>
    rw [weight_cons, List.cons.sizeOf_spec]
    omega

theorem weight_children_lt (c : Concrete) : weight c.children < sizeOf c := by
  obtain ⟨label, e, children⟩ := c
  have h := weight_lt_sizeOf children
  show weight children < sizeOf (Concrete.node label e children)
  rw [Concrete.node.sizeOf_spec]
  omega

theorem weight_firstChild? {c d : Cursor} (h : c.firstChild? = some d) :
    weight (d.node :: d.rest) < weight (c.node :: c.rest) := by
  have hlt := weight_children_lt c.node
  rw [rest_firstChild? h, weight_append, weight_cons]
  omega

theorem weight_onward? {c d : Cursor} (h : c.onward? = some d) :
    weight (d.node :: d.rest) < weight (c.node :: c.rest) := by
  have hlt := weight_children_lt c.node
  rw [← (rest_onward? c).1 d h, weight_cons]
  omega

/-! ## Search -/

/-- Goes down to the first child, where the flag of the node says that an error lies below. -/
def descend? (c : Cursor) : Option Cursor := if c.node.hasError then c.firstChild? else none

theorem weight_descend? {c d : Cursor} (h : c.descend? = some d) :
    weight (d.node :: d.rest) < weight (c.node :: c.rest) :=
  weight_firstChild? (Option.ite_none_right_eq_some.1 h).2

/-- The first node from the cursor on, in pre-order, that is an error or missing. Trees without the flag
are passed over. -/
def search (c : Cursor) : Option Concrete :=
  if c.node.label.broken then some c.node
  else
    match _h : c.descend? with
    | some d => d.search
    | none =>
      match _h : c.onward? with
      | some d => d.search
      | none => none
termination_by weight (c.node :: c.rest)
decreasing_by
  · exact weight_descend? _h
  · exact weight_onward? _h

theorem search_of_broken {c : Cursor} (h : c.node.label.broken = true) : c.search = some c.node := by
  rw [search, if_pos h]

/-- Behind a node that is neither an error nor missing the search goes down if it can, and else on. -/
theorem search_of_not_broken {c : Cursor} (h : c.node.label.broken = false) :
    c.search = (c.descend?.or c.onward?).bind search := by
  rw [search, if_neg (by rw [h]; decide)]
  split
  · rename_i d hd
    rw [hd]
    rfl
  · rename_i hd
    rw [hd, Option.none_or]
    split
    · rename_i d hd'
      rw [hd', Option.bind_some]
    · rename_i hd'
      rw [hd', Option.bind_none]

end Cursor

/-- The first node of a tree in pre-order that is an error or missing. -/
def firstBroken? (root : Concrete) : Option Concrete := (Cursor.start root).search

end Fanout.Concrete
