import Fanout.Proofs.Concrete.Kept
import Fanout.Proofs.Tree.Lowering

/-!
# Where the nodes of a lowered tree come from

* `Becomes` : what a concrete node turns into, by its role;
* `kin_map_snd` : lowering goes on with the kin of a node;
* `origin` : the address in the concrete tree of a node of the lowered tree, by its address there;
* `origins_perm`, `origins_pairwise` : the origins are the kept nodes, in their order but for calls that
  swap them, and `origins_precedes` : which these then do;
* `origin_isPrefix_iff` : nodes lie above one another just as their origins do.
-/

namespace Fanout.Concrete
open Branching

/-! ## Roles and shapes -/

theorem child?_eq (name : String) (c : Concrete) :
    child? name c.children = (c.fieldIndex? name).bind (c.children[·]?) :=
  List.find?_eq_bind_findIdx?_getElem?

theorem find?_counts_eq (c : Concrete) :
    c.children.find? counts = c.operandIndex?.bind (c.children[·]?) :=
  List.find?_eq_bind_findIdx?_getElem?

theorem isSome_fieldIndex (name : String) (c : Concrete) :
    (c.fieldIndex? name).isSome = (child? name c.children).isSome := by
  rw [Bool.eq_iff_iff, fieldIndex?, List.findIdx?_isSome, List.any_eq_true, child?, List.find?_isSome]

theorem isSome_operandIndex (c : Concrete) :
    c.operandIndex?.isSome = (c.children.find? counts).isSome := by
  rw [Bool.eq_iff_iff, operandIndex?, List.findIdx?_isSome, List.any_eq_true, List.find?_isSome]

/-- The shape that a node has by its role. -/
theorem shape_of_role (c : Concrete) :
    match c.role with
    | .call => ∃ callee, child? "function" c.children = some callee ∧
        c.shape = .call callee (argumentsOf c.children)
    | .member => ∃ object property, child? "object" c.children = some object ∧
        child? "property" c.children = some property ∧ c.shape = .member object property.label.text
    | .await => ∃ argument, c.children.find? counts = some argument ∧ c.shape = .await argument
    | .name => c.label.kind = "identifier" ∧ c.shape = .identifier c.label.text
    | .other => c.shape = otherShape c.label c.children := by
  unfold role
  rw [isSome_fieldIndex, isSome_fieldIndex, isSome_fieldIndex, isSome_operandIndex]
  obtain ⟨label, e, children⟩ := c
  simp only [shape, Concrete.label, Concrete.children]
  by_cases hcall : label.kind = "call_expression"
  · simp only [hcall, true_and, if_true]
    cases hf : child? "function" children with
    | some callee => simp
    | none => simp
  · simp only [hcall, false_and, if_false]
    by_cases hmember : label.kind = "member_expression"
    · simp only [hmember, true_and, if_true]
      cases ho : child? "object" children with
      | some object =>
        cases hp : child? "property" children with
        | some property => simp
        | none => simp
      | none => simp
    · simp only [hmember, false_and, if_false]
      by_cases hawait : label.kind = "await_expression"
      · simp only [hawait, true_and, if_true]
        cases hf : children.find? counts with
        | some argument => simp
        | none => simp
      · simp only [hawait, false_and, if_false]
        by_cases hname : label.kind = "identifier"
        · simp [hname]
        · simp [hname]

/-! ## Lowering goes on with the kin -/

theorem childAt_map_snd (c : Concrete) (i : Option Nat) :
    (c.childAt i).map Prod.snd = (i.bind (c.children[·]?)).toList := by
  cases i with
  | none => rfl
  | some i => cases h : c.children[i]? <;> simp [childAt, h]

theorem counted_map_snd (c : Concrete) : c.counted.map Prod.snd = c.children.filter counts := by
  have h := List.filter_map (f := Prod.fst) (p := counts) (l := c.children.zipIdx)
  rw [List.zipIdx_map_fst] at h
  rw [h, counted, List.map_map]
  rfl

theorem arguments_map_snd (c : Concrete) :
    ((c.childAt (c.fieldIndex? "arguments")).flatMap unlisted).map Prod.snd =
      argumentsOf c.children := by
  have h := childAt_map_snd c (c.fieldIndex? "arguments")
  rw [← child?_eq] at h
  unfold argumentsOf
  cases hc : c.childAt (c.fieldIndex? "arguments") with
  | nil =>
    rw [hc] at h
    cases hl : child? "arguments" c.children with
    | none => rfl
    | some list => rw [hl] at h; cases h
  | cons x rest =>
    rw [hc] at h
    cases hl : child? "arguments" c.children with
    | none => rw [hl] at h; cases h
    | some list =>
      rw [hl] at h
      obtain ⟨rfl, hrest⟩ := List.cons.inj h
      rw [List.map_eq_nil_iff.1 hrest, List.flatMap_singleton, unlisted]
      by_cases hk : x.2.label.kind = "arguments"
      · simp only [hk, if_true, List.map_map, beq_self_eq_true]
        exact counted_map_snd x.2
      · simp [hk]

/-- Lowering goes on with the kin of a node. -/
theorem kin_map_snd (c : Concrete) : c.kin.map Prod.snd = c.shape.parts := by
  have hs := shape_of_role c
  unfold kin
  cases hr : c.role with
  | call =>
    rw [hr] at hs
    obtain ⟨callee, hc, hs⟩ := hs
    rw [hs, List.map_append, childAt_map_snd, ← child?_eq, hc, arguments_map_snd]
    rfl
  | member =>
    rw [hr] at hs
    obtain ⟨object, property, ho, -, hs⟩ := hs
    rw [hs, childAt_map_snd, ← child?_eq, ho]
    rfl
  | await =>
    rw [hr] at hs
    obtain ⟨argument, ha, hs⟩ := hs
    rw [hs, childAt_map_snd, ← find?_counts_eq, ha]
    rfl
  | name =>
    rw [hr] at hs
    rw [hs.2]
    rfl
  | other =>
    rw [hr] at hs
    rw [show c.shape = _ from hs, counted_map_snd]
    rfl

/-- A node of this place and kind is what the concrete node has to turn into. -/
def Becomes (d : Concrete) (n : Node) : Prop :=
  n.place = d.place ∧
    match n with
    | .call _ _ _ => d.role = .call
    | .member _ _ property =>
      d.role = .member ∧ ∃ e, child? "property" d.children = some e ∧ property = e.label.text
    | .await _ _ => d.role = .await
    | .identifier _ name => d.role = .name ∧ name = d.label.text
    | .other _ kind _ => d.role = .other ∧ kind = d.label.kind

theorem Becomes.exists_call {d : Concrete} {n : Node} (h : d.Becomes n) (hcall : d.role = .call) :
    ∃ l callee arguments, n = .call l callee arguments := by
  cases n with
  | call l callee arguments => exact ⟨l, callee, arguments, rfl⟩
  | member => exact absurd (hcall.symm.trans h.2.1) (by decide)
  | await => exact absurd (hcall.symm.trans h.2) (by decide)
  | identifier => exact absurd (hcall.symm.trans h.2.1) (by decide)
  | other => exact absurd (hcall.symm.trans h.2.1) (by decide)

theorem becomes_lowerAll (d : Concrete) : d.Becomes d.lowerAll := by
  refine ⟨place_lowerAll d, ?_⟩
  have hs := shape_of_role d
  rw [lowerAll_eq]
  cases hr : d.role with
  | call =>
    rw [hr] at hs
    obtain ⟨callee, -, hs⟩ := hs
    rw [hs]
  | member =>
    rw [hr] at hs
    obtain ⟨object, property, -, hp, hs⟩ := hs
    rw [hs]
    exact ⟨rfl, property, hp, rfl⟩
  | await =>
    rw [hr] at hs
    obtain ⟨argument, -, hs⟩ := hs
    rw [hs]
  | name =>
    rw [hr] at hs
    rw [hs.2]
    exact ⟨rfl, rfl⟩
  | other =>
    rw [hr] at hs
    rw [show d.shape = _ from hs]
    exact ⟨rfl, rfl⟩

/-! ## Origins -/

/-- The address in a concrete tree of a node of its lowered tree. -/
def origin : Concrete → Address → Address
  | _, [] => []
  | c, k :: q =>
    match c.kin[k]? with
    | some x => x.1 ++ x.2.origin q
    | none => []

theorem origin_cons {c : Concrete} {k : Nat} {x : Address × Concrete} (h : c.kin[k]? = some x)
    (q : Address) : c.origin (k :: q) = x.1 ++ x.2.origin q := by
  rw [origin, h]

theorem subtree?_lowerAll_cons (c : Concrete) (k : Nat) (q : Address) :
    subtree? c.lowerAll (k :: q) = c.kin[k]?.bind fun x => subtree? x.2.lowerAll q := by
  have h : Branching.children c.lowerAll = c.kin.map fun x => x.2.lowerAll := by
    rw [show Branching.children c.lowerAll = c.lowerAll.children from rfl, children_lowerAll,
      ← kin_map_snd, List.map_map]
    rfl
  rw [subtree?_cons, h, List.getElem?_map, Option.bind_map]
  rfl

/-- A node of the lowered tree is what the kept node at its origin turns into, and what lies below the
one has its origin below the other. -/
theorem origin_spec {c : Concrete} {q : Address} {n : Node} (h : subtree? c.lowerAll q = some n) :
    ∃ d, subtree? c (c.origin q) = some d ∧ n = d.lowerAll ∧ c.Keeps (c.origin q) ∧
      ∀ s, c.origin (q ++ s) = c.origin q ++ d.origin s := by
  induction q generalizing c with
  | nil => exact ⟨c, rfl, (Option.some.inj h).symm, trivial, fun s => rfl⟩
  | cons k q ih =>
    rw [subtree?_lowerAll_cons] at h
    obtain ⟨⟨r, e⟩, hx, h⟩ := Option.bind_eq_some_iff.1 h
    obtain ⟨d, hd, hn, hkeeps, hbelow⟩ := ih h
    have hkin : (r, e) ∈ c.kin := List.mem_of_getElem? hx
    rw [origin_cons hx]
    refine ⟨d, ?_, hn, keeps_iff.2 (.inr ⟨r, e, _, hkin, rfl, hkeeps⟩), fun s => ?_⟩
    · rw [subtree?_append, (kin_spec hkin).2]
      exact hd
    · rw [List.cons_append, origin_cons hx, hbelow, List.append_assoc]

/-- Every kept node is the origin of a node of the lowered tree. -/
theorem exists_origin {c : Concrete} {p : Address} (h : c.Keeps p) :
    ∃ q ∈ addresses c.lowerAll, c.origin q = p := by
  induction hlen : p.length using Nat.strongRecOn generalizing c p with
  | ind n ih =>
    obtain rfl | ⟨r, e, s, hkin, rfl, hs⟩ := keeps_iff.1 h
    · exact ⟨[], mem_addresses_of_subtree (subtree?_nil _), rfl⟩
    · have hr := List.length_pos_iff.2 (kin_spec hkin).1
      rw [List.length_append] at hlen
      obtain ⟨q, hq, rfl⟩ := ih s.length (by omega) hs rfl
      obtain ⟨m, hm⟩ := exists_subtree hq
      obtain ⟨k, hk⟩ := List.getElem?_of_mem hkin
      refine ⟨k :: q, mem_addresses_of_subtree (b := m) ?_, origin_cons hk q⟩
      rw [subtree?_lowerAll_cons, hk]
      exact hm

theorem origin_eq_nil {c : Concrete} {s : Address} (hs : s ∈ addresses c.lowerAll)
    (h : c.origin s = []) : s = [] := by
  cases s with
  | nil => rfl
  | cons k s =>
    obtain ⟨n, hn⟩ := exists_subtree hs
    rw [subtree?_lowerAll_cons] at hn
    obtain ⟨⟨r, e⟩, hx, -⟩ := Option.bind_eq_some_iff.1 hn
    rw [origin_cons hx, List.append_eq_nil_iff] at h
    exact absurd h.1 (kin_spec (List.mem_of_getElem? hx)).1

/-- The one node lies in the callee and the other in the arguments of a call whose arguments stand left
of its callee. -/
def Swapped (c : Concrete) (p q : Address) : Prop :=
  ∃ r d u v, subtree? c r = some d ∧ d.Swaps u v ∧ p = r ++ u ∧ q = r ++ v

theorem Swapped.leftOf {c : Concrete} {p q : Address} (h : c.Swapped p q) : LeftOf q p := by
  obtain ⟨r, d, u, v, -, hs, rfl, rfl⟩ := h
  exact hs.leftOf.append_left r

/-- Where a node stands left of another, their origins do too, unless a call swaps them. -/
theorem origin_leftOf {c : Concrete} {q q' : Address} (hq : q ∈ addresses c.lowerAll)
    (hq' : q' ∈ addresses c.lowerAll) (h : LeftOf q q') :
    LeftOf (c.origin q) (c.origin q') ∨ c.Swapped (c.origin q) (c.origin q') := by
  obtain ⟨s, i, j, u, v, hij, rfl, rfl⟩ := h
  obtain ⟨m, hm⟩ := exists_subtree (mem_addresses_of_isPrefix (List.prefix_append s _) hq)
  obtain ⟨d, hd, rfl, -, hbelow⟩ := origin_spec hm
  have branch {k : Nat} {w : Address} (hw : s ++ k :: w ∈ addresses c.lowerAll) :
      ∃ x, d.kin[k]? = some x ∧ c.origin (s ++ k :: w) = c.origin s ++ (x.1 ++ x.2.origin w) := by
    obtain ⟨n, hn⟩ := exists_subtree hw
    rw [subtree?_append, hm, Option.bind_some, subtree?_lowerAll_cons] at hn
    obtain ⟨x, hx, -⟩ := Option.bind_eq_some_iff.1 hn
    exact ⟨x, hx, by rw [hbelow, origin_cons hx]⟩
  obtain ⟨x, hx, hqx⟩ := branch hq
  obtain ⟨y, hy, hqy⟩ := branch hq'
  obtain ⟨hi, rfl⟩ := List.getElem?_eq_some_iff.1 hx
  obtain ⟨hj, rfl⟩ := List.getElem?_eq_some_iff.1 hy
  rw [hqx, hqy]
  obtain h | h := List.pairwise_iff_getElem.1 d.kin_pairwise i j hi hj hij
  · exact .inl ((h.append_right _ _).append_left _)
  · exact .inr ⟨_, d, _, _, hd, h.append_right _ _, rfl, rfl⟩

/-- Nodes of the lowered tree lie above one another just as their origins do. -/
theorem origin_isPrefix_iff {c : Concrete} {q q' : Address} (hq : q ∈ addresses c.lowerAll)
    (hq' : q' ∈ addresses c.lowerAll) : c.origin q <+: c.origin q' ↔ q <+: q' := by
  have up {q q' : Address} (hq : q ∈ addresses c.lowerAll) (h : q <+: q') :
      c.origin q <+: c.origin q' := by
    obtain ⟨s, rfl⟩ := h
    obtain ⟨n, hn⟩ := exists_subtree hq
    obtain ⟨d, -, -, -, hbelow⟩ := origin_spec hn
    exact ⟨d.origin s, (hbelow s).symm⟩
  refine ⟨fun h => ?_, up hq⟩
  obtain h' | ⟨s, rfl⟩ | h' | h' := isPrefix_or_leftOf q q'
  · exact h'
  · -- The origins are beginnings of each other, so no step leads from the one node to the other.
    obtain ⟨n, hn⟩ := exists_subtree hq'
    obtain ⟨d, -, rfl, -, hbelow⟩ := origin_spec hn
    have hlen := h.length_le
    rw [hbelow, List.length_append] at hlen
    have hs : s ∈ addresses d.lowerAll := by
      rw [mem_addresses, subtree?_append, hn, Option.bind_some] at hq
      exact mem_addresses.2 hq
    have hnil : s = [] := origin_eq_nil hs (List.length_eq_zero_iff.1 (by omega))
    exact ⟨[], by rw [hnil, List.append_nil, List.append_nil]⟩
  · obtain h' | h' := origin_leftOf hq hq' h'
    · exact absurd h h'.not_isPrefix
    · exact absurd h h'.leftOf.not_isPrefix'
  · obtain h' | h' := origin_leftOf hq' hq h'
    · exact absurd h h'.not_isPrefix'
    · exact absurd h h'.leftOf.not_isPrefix

theorem origin_inj {c : Concrete} {q q' : Address} (hq : q ∈ addresses c.lowerAll)
    (hq' : q' ∈ addresses c.lowerAll) (h : c.origin q = c.origin q') : q = q' := by
  have h₁ : q <+: q' := (origin_isPrefix_iff hq hq').1 (h ▸ List.prefix_rfl)
  have h₂ : q' <+: q := (origin_isPrefix_iff hq' hq).1 (h ▸ List.prefix_rfl)
  exact h₁.eq_of_length (Nat.le_antisymm h₁.length_le h₂.length_le)

/-- The callee of a call comes from the field of the function, its arguments from the field of the
arguments. -/
theorem origin_call {c : Concrete} {q : Address} {l : Location} {callee : Node} {arguments : List Node}
    (h : subtree? c.lowerAll q = some (.call l callee arguments)) :
    ∃ d i, subtree? c (c.origin q) = some d ∧ d.fieldIndex? "function" = some i ∧
      c.origin (q ++ [0]) = c.origin q ++ [i] ∧
      ∀ k < arguments.length, ∃ j u, d.fieldIndex? "arguments" = some j ∧
        c.origin (q ++ [k + 1]) = c.origin q ++ j :: u := by
  obtain ⟨d, hd, hn, -, hbelow⟩ := origin_spec h
  have hr : d.role = .call := by
    have hb := becomes_lowerAll d
    rw [← hn] at hb
    exact hb.2
  have hs := shape_of_role d
  rw [hr] at hs
  obtain ⟨f, hf, hs⟩ := hs
  rw [child?_eq] at hf
  obtain ⟨i, hi, hf⟩ := Option.bind_eq_some_iff.1 hf
  have hkin : d.kin =
      ([i], f) :: (d.childAt (d.fieldIndex? "arguments")).flatMap unlisted := by
    rw [kin, hr, hi]
    simp [childAt, hf]
  have hlen : (d.kin.map Prod.snd).length = arguments.length + 1 := by
    have hc := children_lowerAll d
    rw [← hn] at hc
    have hc := congrArg List.length hc
    rw [List.length_map] at hc
    rw [kin_map_snd, ← hc]
    rfl
  refine ⟨d, i, hd, hi, ?_, fun k hk => ?_⟩
  · rw [hbelow, origin_cons (x := ([i], f)) (by rw [hkin]; rfl)]
    rfl
  · rw [List.length_map, hkin, List.length_cons] at hlen
    obtain ⟨⟨r, e⟩, hx⟩ : ∃ x,
        ((d.childAt (d.fieldIndex? "arguments")).flatMap unlisted)[k]? = some x :=
      ⟨_, List.getElem?_eq_getElem (by omega)⟩
    obtain ⟨j, u, hj, rfl⟩ := exists_index_of_mem (List.mem_of_getElem? hx)
    refine ⟨j, u, hj, ?_⟩
    rw [hbelow, origin_cons (by rw [hkin, List.getElem?_cons_succ]; exact hx)]
    simp [origin]

/-! ## The whole tree -/

/-- The origins of the nodes of the lowered tree, in the order of a walk through it. -/
def origins (c : Concrete) : List Address := (addresses c.lowerAll).map c.origin

theorem mem_origins {c : Concrete} {p : Address} : p ∈ c.origins ↔ c.Keeps p := by
  constructor
  · intro h
    obtain ⟨q, hq, rfl⟩ := List.mem_map.1 h
    obtain ⟨n, hn⟩ := exists_subtree hq
    obtain ⟨d, -, -, hkeeps, -⟩ := origin_spec hn
    exact hkeeps
  · intro h
    obtain ⟨q, hq, rfl⟩ := exists_origin h
    exact List.mem_map_of_mem hq

theorem mem_addresses_of_keeps {c : Concrete} {p : Address} (h : c.Keeps p) : p ∈ addresses c := by
  obtain ⟨q, hq, rfl⟩ := exists_origin h
  obtain ⟨n, hn⟩ := exists_subtree hq
  obtain ⟨d, hd, -⟩ := origin_spec hn
  exact mem_addresses_of_subtree hd

theorem origins_nodup (c : Concrete) : c.origins.Nodup := by
  rw [origins, List.nodup_iff_pairwise_ne, List.pairwise_map]
  refine (addresses_pairwise_lt c.lowerAll).imp_of_mem fun {q q'} hq hq' hlt heq => ?_
  rw [origin_inj hq hq' heq] at hlt
  exact List.lt_irrefl _ hlt

/-- Each kept node is the origin of one node of the lowered tree. -/
theorem origins_perm (c : Concrete) : c.origins.Perm ((addresses c).filter (c.Keeps ·)) := by
  refine (List.perm_ext_iff_of_nodup c.origins_nodup ((addresses_nodup c).filter _)).2 fun p => ?_
  rw [mem_origins, List.mem_filter, decide_eq_true_iff]
  exact ⟨fun h => ⟨mem_addresses_of_keeps h, h⟩, fun h => h.2⟩

/-- A walk through the lowered tree comes to the kept nodes in the order of the concrete tree, but for
those that a call swaps. -/
theorem origins_pairwise (c : Concrete) : c.origins.Pairwise fun p q => p < q ∨ c.Swapped p q := by
  rw [origins, List.pairwise_map]
  refine (addresses_pairwise_lt c.lowerAll).imp_of_mem fun {q q'} hq hq' hlt => ?_
  obtain h | h := isPrefix_or_leftOf_of_lt hlt
  · refine .inl (lt_of_isPrefix ((origin_isPrefix_iff hq hq').2 h) fun heq => ?_)
    rw [origin_inj hq hq' heq] at hlt
    exact List.lt_irrefl _ hlt
  · exact (origin_leftOf hq hq' h).imp_left LeftOf.lt

/-- The order of the concrete tree, but for the callee and the arguments of a call that swaps them. -/
def Precedes (c : Concrete) (p q : Address) : Prop := c.Swapped p q ∨ (p < q ∧ ¬ c.Swapped q p)

/-- In the lowered tree, what lies in a callee comes before what lies in the arguments. -/
theorem not_swapped_of_lt {c : Concrete} {q q' : Address} (hq : q ∈ addresses c.lowerAll)
    (hq' : q' ∈ addresses c.lowerAll) (h : q < q') : ¬ c.Swapped (c.origin q') (c.origin q) := by
  rintro ⟨r, d, _, _, hd, ⟨hcall, i, j, u, v, hi, hj, hji, rfl, rfl⟩, hu, hv⟩
  have hkept : c.Keeps r := keeps_of_append hd hcall (hu ▸ mem_origins.1 (List.mem_map_of_mem hq'))
  obtain ⟨a, ha, rfl⟩ := exists_origin hkept
  obtain ⟨n, hn⟩ := exists_subtree ha
  obtain ⟨l, callee, arguments, rfl⟩ : ∃ l callee arguments, n = .call l callee arguments := by
    obtain ⟨e, he, rfl, -⟩ := origin_spec hn
    cases hd.symm.trans he
    exact (becomes_lowerAll d).exists_call hcall
  obtain ⟨e, i', he, hi', hcallee, -⟩ := origin_call hn
  cases hd.symm.trans he
  cases hi.symm.trans hi'
  have ha0 : a ++ [0] ∈ addresses c.lowerAll := by
    refine mem_addresses_of_subtree (b := callee) ?_
    rw [subtree?_append, hn]
    rfl
  -- The later node lies in the callee, and the earlier one in the call but not in the callee.
  have hlast : a ++ [0] <+: q' := by
    rw [← origin_isPrefix_iff ha0 hq', hcallee, hu]
    exact ⟨u, by rw [List.append_assoc, List.singleton_append]⟩
  obtain ⟨s, rfl⟩ : a <+: q := by
    rw [← origin_isPrefix_iff ha hq, hv]
    exact List.prefix_append _ _
  have hfirst : ¬ a ++ [0] <+: a ++ s := by
    rw [← origin_isPrefix_iff ha0 hq, hcallee, hv, List.prefix_append_right_inj, List.cons_prefix_cons]
    omega
  obtain ⟨s', rfl⟩ := hlast
  rw [List.append_assoc, List.singleton_append] at h
  cases s with
  | nil =>
    rw [List.append_nil] at hv
    exact absurd (List.self_eq_append_right.1 hv) (by simp)
  | cons k s =>
    have hk : k ≠ 0 := by
      rintro rfl
      exact hfirst ⟨s, by rw [List.append_assoc, List.singleton_append]⟩
    have hleft : LeftOf (a ++ 0 :: s') (a ++ k :: s) :=
      (LeftOf.of_lt (Nat.pos_of_ne_zero hk) s' s).append_left a
    exact List.lt_asymm h hleft.lt

/-- A walk through the lowered tree comes to the callee of each call before its arguments, and else to the
kept nodes in the order of the concrete tree. -/
theorem origins_precedes (c : Concrete) : c.origins.Pairwise c.Precedes := by
  have horder := c.origins_pairwise
  rw [origins, List.pairwise_map] at horder ⊢
  refine List.Pairwise.imp_of_mem ?_ (horder.and (addresses_pairwise_lt c.lowerAll))
  rintro q q' hq hq' ⟨h | h, hlt⟩
  · exact .inr ⟨h, not_swapped_of_lt hq hq' hlt⟩
  · exact .inl h

/-- In every call of the tree the callee stands left of the arguments. -/
def CalleesFirst (c : Concrete) : Prop :=
  ∀ p d, subtree? c p = some d → d.role = .call →
    ∀ i j, d.fieldIndex? "function" = some i → d.fieldIndex? "arguments" = some j → i < j

theorem CalleesFirst.not_swapped {c : Concrete} (hc : c.CalleesFirst) (p q : Address) :
    ¬ c.Swapped p q := by
  rintro ⟨r, d, _, _, hd, ⟨hr, i, j, u, v, hi, hj, hji, -, -⟩, -, -⟩
  have hij := hc r d hd hr i j hi hj
  omega

/-- Where callees stand left of arguments, a walk through the lowered tree comes to the kept nodes in
the order of the concrete tree. -/
theorem origins_eq {c : Concrete} (hc : c.CalleesFirst) :
    c.origins = (addresses c).filter (c.Keeps ·) := by
  have hlt : c.origins.Pairwise (· < ·) :=
    c.origins_pairwise.imp fun {p q} h => h.resolve_right (hc.not_swapped p q)
  refine List.Perm.eq_of_pairwise ?_ hlt ((addresses_pairwise_lt c).filter _) c.origins_perm
  intro p q _ _ h h'
  exact absurd h' (List.lt_asymm h)

/-- A walk through the lowered tree meets the nodes at its addresses, and each of them is what the node
at its origin has to turn into. -/
theorem visits_origin (c : Concrete) :
    List.Forall₂
      (fun v q => subtree? c.lowerAll q = some v.node ∧
        ∃ d, subtree? c (c.origin q) = some d ∧ d.Becomes v.node)
      c.lowerAll.visits (addresses c.lowerAll) := by
  rw [Node.visits_eq, Node.visitsBelow, List.forall₂_map_left_iff, List.forall₂_same]
  intro q hq
  obtain ⟨n, hn⟩ := exists_subtree hq
  obtain ⟨d, hd, rfl, -⟩ := origin_spec hn
  rw [(Node.visitAt_spec hn []).1]
  exact ⟨hn, d, hd, becomes_lowerAll d⟩

end Fanout.Concrete
