import Fanout.Proofs.Tree.Origin

/-!
# What a lowered tree holds

* `Yields` : a syntax tree holds just the kept nodes of a concrete tree, each by its origin;
* `lower_yields` : lowering yields such a tree;
* `not_forall_lower_inOrder` : it need not keep the order of the concrete tree, and it may leave out more than
  calls, member accesses, awaits and extras do.
-/

namespace Fanout.Concrete
open Branching

/-- A syntax tree holds just the kept nodes of a concrete tree, each by its origin. -/
structure Yields (c : Concrete) (t : Node) : Prop where
  /-- The nodes that a walk meets, one for each address, are what the nodes at their origins have to turn
  into. -/
  visits : List.Forall₂
    (fun v q => subtree? t q = some v.node ∧ ∃ d, subtree? c (c.origin q) = some d ∧ d.Becomes v.node)
    t.visits (addresses t)
  /-- Each kept node is met once, and no other node is met. -/
  once : ((addresses t).map c.origin).Perm ((addresses c).filter (c.Keeps ·))
  /-- Nodes are met in the order of the concrete tree, but for a call whose arguments stand left of its
  callee: what lies in its callee is met before what lies in its arguments. -/
  order : ((addresses t).map c.origin).Pairwise c.Precedes
  /-- So they are met just as a walk through the concrete tree comes to them where there is no such
  call. -/
  sameOrder : c.CalleesFirst → (addresses t).map c.origin = (addresses c).filter (c.Keeps ·)
  /-- One node lies above another just where its origin does. -/
  above : ∀ q ∈ addresses t, ∀ q' ∈ addresses t, c.origin q <+: c.origin q' ↔ q <+: q'
  /-- The callee of a call is the child in the field of the function, and its arguments lie in the field of
  the arguments. -/
  parts : ∀ q l callee arguments, subtree? t q = some (.call l callee arguments) →
    ∃ d i, subtree? c (c.origin q) = some d ∧ d.fieldIndex? "function" = some i ∧
      c.origin (q ++ [0]) = c.origin q ++ [i] ∧
      ∀ k < arguments.length, ∃ j u, d.fieldIndex? "arguments" = some j ∧
        c.origin (q ++ [k + 1]) = c.origin q ++ j :: u

/-- Lowering keeps each kept node once, at its place, in its order and below the nodes that it lay below,
and keeps nothing else. -/
theorem lower_yields {c : Concrete} {t : Node} (h : c.lower = .ok t) : c.Yields t := by
  obtain rfl := eq_lowerAll_of_lower h
  exact
    { visits := c.visits_origin
      once := c.origins_perm
      order := c.origins_precedes
      sameOrder := origins_eq
      above := fun _ hq _ hq' => origin_isPrefix_iff hq hq'
      parts := fun _ _ _ _ => origin_call }

/-- An awaited call with a comment, type arguments and a nested call:
`await /* all */ Promise.all<T>(/* ids */ ids.map(f), x)`. -/
def awaitedCall : Concrete :=
  let name (kind text : String) (column : Nat) (field : Option String := none) : Concrete :=
    .leaf { kind, start := ⟨0, column⟩, text, field }
  let comment (column : Nat) : Concrete :=
    .leaf { kind := "comment", start := ⟨0, column⟩, extra := true }
  let member (object property : Concrete) (column : Nat) : Concrete :=
    .ofChildren { kind := "member_expression", start := ⟨0, column⟩, field := some "function" }
      [object.withField "object", property.withField "property"]
  let arguments (children : List Concrete) (column : Nat) : Concrete :=
    .ofChildren { kind := "arguments", start := ⟨0, column⟩, field := some "arguments" } children
  .ofChildren { kind := "await_expression", start := ⟨0, 0⟩ }
    [comment 6,
      .ofChildren { kind := "call_expression", start := ⟨0, 16⟩ }
        [member (name "identifier" "Promise" 16) (name "property_identifier" "all" 24) 16,
          .ofChildren { kind := "type_arguments", start := ⟨0, 27⟩, field := some "type_arguments" }
            [name "type_identifier" "T" 28],
          arguments
            [comment 31,
              .ofChildren { kind := "call_expression", start := ⟨0, 41⟩ }
                [member (name "identifier" "ids" 41) (name "property_identifier" "map" 45) 41,
                  arguments [name "identifier" "f" 49] 48],
              name "identifier" "x" 53]
            30]]

def awaitedCallTree : Node :=
  .await ⟨1, 0⟩
    (.call ⟨1, 16⟩ (.member ⟨1, 16⟩ (.identifier ⟨1, 16⟩ "Promise") "all")
      [.call ⟨1, 41⟩ (.member ⟨1, 41⟩ (.identifier ⟨1, 41⟩ "ids") "map") [.identifier ⟨1, 49⟩ "f"],
        .identifier ⟨1, 53⟩ "x"])

theorem lower_yields_awaitedCall :
    awaitedCall.lower = .ok awaitedCallTree ∧ awaitedCall.Yields awaitedCallTree :=
  have h : awaitedCall.lower = .ok awaitedCallTree := by rfl
  ⟨h, lower_yields h⟩

/-! ## Where more is lost -/

/-- The places of the kept nodes in the order of the concrete tree. -/
def keptPlaces (c : Concrete) : List Location :=
  ((addresses c).filter (c.Keeps ·)).filterMap fun p => (subtree? c p).map place

/-- No node of the tree is an extra or a token without a name, and none is a call, a member access or an
await. -/
def Plain (c : Concrete) : Prop :=
  ∀ p d, subtree? c p = some d → d.counts = true ∧ d.role ≠ .call ∧ d.role ≠ .member ∧ d.role ≠ .await

theorem addresses_leaf (label : Label) : addresses (leaf label) = [[]] := by
  rw [addresses_eq]
  rfl

def nameLeaf (text : String) (column : Nat) : Label := { kind := "identifier", start := ⟨0, column⟩, text }

def argumentList : Concrete :=
  .ofChildren { kind := "arguments", start := ⟨0, 0⟩, field := some "arguments" } [.leaf (nameLeaf "x" 1)]

/-- A call of `f` whose argument `x` stands left of it. -/
def swappedCall : Concrete :=
  .ofChildren { kind := "call_expression", start := ⟨0, 0⟩ }
    [argumentList, .leaf { nameLeaf "f" 3 with field := some "function" }]

def swappedCallTree : Node := .call ⟨1, 0⟩ (.identifier ⟨1, 3⟩ "f") [.identifier ⟨1, 1⟩ "x"]

theorem keptPlaces_swappedCall : swappedCall.keptPlaces = [⟨1, 0⟩, ⟨1, 1⟩, ⟨1, 3⟩] := by
  have hlist : addresses argumentList = [[], [0]] := by
    rw [addresses_eq]
    show [] :: ((addresses (leaf _)).map (0 :: ·) ++ []) = _
    rw [addresses_leaf]
    rfl
  have hcall : addresses swappedCall = [[], [0], [0, 0], [1]] := by
    rw [addresses_eq]
    show [] :: ((addresses argumentList).map (0 :: ·) ++ ((addresses (leaf _)).map (1 :: ·) ++ [])) = _
    rw [hlist, addresses_leaf]
    rfl
  rw [keptPlaces, hcall]
  decide

/-- A name `f` that has another name below it. -/
def nestedName : Concrete := .ofChildren (nameLeaf "f" 0) [.leaf (nameLeaf "f" 0)]

theorem plain_nestedName : nestedName.Plain := by
  intro p d hd
  match p, hd with
  | [], rfl => decide
  | [0], rfl => decide

theorem length_addresses_nestedName : (addresses nestedName).length = 2 := by
  rw [addresses_eq]
  show ([] :: ((addresses (leaf _)).map (0 :: ·) ++ [])).length = 2
  rw [addresses_leaf]
  rfl

/-- A callee right of its arguments is met before them all the same, and what lies below a name is lost without a
call, a member access, an await or an extra. -/
theorem not_forall_lower_inOrder :
    (¬ ∀ (c : Concrete) (t : Node), c.lower = .ok t → t.visits.map (·.node.place) = c.keptPlaces) ∧
      ¬ ∀ (c : Concrete) (t : Node), c.lower = .ok t → c.Plain → t.visits.length = (addresses c).length := by
  constructor
  · intro h
    have hplaces := h swappedCall swappedCallTree rfl
    rw [keptPlaces_swappedCall] at hplaces
    exact absurd hplaces (by decide)
  · intro h
    have hlength := h nestedName (.identifier ⟨1, 0⟩ "f") rfl plain_nestedName
    rw [length_addresses_nestedName] at hlength
    exact absurd hlength (by decide)

end Fanout.Concrete
