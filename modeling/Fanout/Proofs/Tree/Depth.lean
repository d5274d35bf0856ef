import Fanout.Proofs.Tree.Origin
import Fanout.Tree.Parse

/-!
# How deep a tree may be

* `keptAbove` : the kept nodes that a node of a concrete tree lies below;
* `Node.exists_level` : where a level is reached, every level above it is;
* `length_keptAbove_origin` : only they make up the level of a node of the lowered tree;
* `lower_within_limit` : lowering with the limit is lowering without one, or it names the first node
  that it comes to on the first level below the limit;
* `ancestors_of_parse` : no parsed tree is deeper than the limit.
-/

namespace Fanout
open Branching

/-! ## Levels of a tree -/

namespace Branching
variable {α : Type} [Branching α]

/-- A node lies below as many nodes as there are steps in its address. -/
theorem length_properPrefixes {a : α} {q : Address} (hq : q ∈ addresses a) :
    ((addresses a).filter fun r => r <+: q ∧ r ≠ q).length = q.length := by
  have hnodup : ((List.range q.length).map fun k => q.take k).Nodup := by
    rw [List.nodup_iff_pairwise_ne, List.pairwise_map]
    refine (List.pairwise_lt_range (n := q.length)).imp_of_mem fun {i j} hi hj hij heq => ?_
    have hlen := congrArg List.length heq
    rw [List.mem_range] at hi hj
    rw [List.length_take, List.length_take] at hlen
    omega
  have hperm : ((addresses a).filter fun r => r <+: q ∧ r ≠ q).Perm
      ((List.range q.length).map fun k => q.take k) := by
    refine (List.perm_ext_iff_of_nodup ((addresses_nodup a).filter _) hnodup).2 fun r => ?_
    rw [List.mem_filter, List.mem_map, decide_eq_true_iff]
    constructor
    · rintro ⟨-, hr, hne⟩
      have hlen := hr.length_le
      refine ⟨r.length, List.mem_range.2 (Nat.lt_of_le_of_ne hlen fun h => ?_), ?_⟩
      · exact hne (hr.eq_of_length h)
      · exact (List.prefix_iff_eq_take.1 hr).symm
    · rintro ⟨k, hk, rfl⟩
      refine ⟨mem_addresses_of_isPrefix (List.take_prefix k q) hq, List.take_prefix k q, fun h => ?_⟩
      have hlen := congrArg List.length h
      rw [List.mem_range] at hk
      rw [List.length_take] at hlen
      omega
  rw [hperm.length_eq, List.length_map, List.length_range]

end Branching

namespace Node

theorem mem_visits {t : Node} {v : Visit} : v ∈ t.visits ↔ ∃ q ∈ addresses t, visitAt [] t q = v := by
  rw [visits_eq, visitsBelow, List.mem_map]

theorem length_ancestors {t : Node} {q : Address} (hq : q ∈ addresses t) :
    (visitAt [] t q).ancestors.length = q.length := by
  obtain ⟨n, hn⟩ := exists_subtree hq
  rw [(visitAt_spec hn []).2, List.length_nil, Nat.zero_add]

/-- Where a tree reaches a level, it reaches every level above. -/
theorem exists_level {t : Node} {v : Visit} (hv : v ∈ t.visits) {level : Nat}
    (hle : level ≤ v.ancestors.length) : ∃ w ∈ t.visits, w.ancestors.length = level := by
  obtain ⟨q, hq, rfl⟩ := mem_visits.1 hv
  rw [length_ancestors hq] at hle
  have hmem : q.take level ∈ addresses t := mem_addresses_of_isPrefix (List.take_prefix level q) hq
  refine ⟨_, mem_visits.2 ⟨_, hmem, rfl⟩, ?_⟩
  rw [length_ancestors hmem, List.length_take]
  omega

end Node

namespace Concrete

/-! ## Kept nodes above a node -/

/-- The kept nodes that the node at an address lies below. -/
def keptAbove (c : Concrete) (p : Address) : List Address :=
  (addresses c).filter fun r => c.Keeps r ∧ r <+: p ∧ r ≠ p

/-- The level of a node of the lowered tree counts just the kept nodes above its origin. -/
theorem length_keptAbove_origin {c : Concrete} {q : Address} (hq : q ∈ addresses c.lowerAll) :
    (c.keptAbove (c.origin q)).length = q.length := by
  have hsplit : c.keptAbove (c.origin q) =
      ((addresses c).filter (c.Keeps ·)).filter fun r => r <+: c.origin q ∧ r ≠ c.origin q := by
    rw [List.filter_filter, keptAbove]
    refine List.filter_congr fun r _ => ?_
    rw [Bool.eq_iff_iff]
    simp only [decide_eq_true_iff, Bool.and_eq_true]
    exact And.comm
  have habove : ∀ r ∈ addresses c.lowerAll,
      (decide (c.origin r <+: c.origin q ∧ c.origin r ≠ c.origin q)) = decide (r <+: q ∧ r ≠ q) := by
    intro r hr
    refine decide_eq_decide.2 (and_congr (origin_isPrefix_iff hr hq) (not_congr ?_))
    exact ⟨origin_inj hr hq, fun h => h ▸ rfl⟩
  calc
    (c.keptAbove (c.origin q)).length
      = (c.origins.filter fun r => r <+: c.origin q ∧ r ≠ c.origin q).length := by
        rw [hsplit, (c.origins_perm.filter _).length_eq]
    _ = ((addresses c.lowerAll).filter fun r => r <+: q ∧ r ≠ q).length := by
        rw [origins, List.filter_map, List.length_map]
        exact congrArg List.length (List.filter_congr habove)
    _ = q.length := length_properPrefixes hq

/-- Each node of the lowered tree stands for a kept node, with one ancestor for each kept node above
it. -/
theorem exists_keeps_of_visit {c : Concrete} {v : Node.Visit} (hv : v ∈ c.lowerAll.visits) :
    ∃ p d, c.Keeps p ∧ subtree? c p = some d ∧ d.Becomes v.node ∧
      (c.keptAbove p).length = v.ancestors.length := by
  obtain ⟨q, hq, rfl⟩ := Node.mem_visits.1 hv
  obtain ⟨n, hn⟩ := exists_subtree hq
  obtain ⟨d, hd, rfl, hkeeps, -⟩ := origin_spec hn
  refine ⟨c.origin q, d, hkeeps, hd, ?_, ?_⟩
  · rw [(Node.visitAt_spec hn []).1]
    exact becomes_lowerAll d
  · rw [Node.length_ancestors hq, length_keptAbove_origin hq]

/-- Each kept node is stood for. -/
theorem exists_visit_of_keeps {c : Concrete} {p : Address} (hp : c.Keeps p) :
    ∃ v ∈ c.lowerAll.visits, v.ancestors.length = (c.keptAbove p).length := by
  obtain ⟨q, hq, rfl⟩ := exists_origin hp
  refine ⟨_, Node.mem_visits.2 ⟨q, hq, rfl⟩, ?_⟩
  rw [Node.length_ancestors hq, length_keptAbove_origin hq]

/-! ## The limit -/

/-- Lowering comes to no node on the level below the limit just where no node lies below the limit. -/
theorem entries_ne_iff {t : Node} {limit : Nat} :
    (∀ v ∈ t.entries, v.ancestors.length ≠ limit + 1) ↔
      ∀ v ∈ t.visits, v.ancestors.length ≤ limit := by
  constructor
  · intro h v hv
    by_contra hlt
    obtain ⟨w, hw, hlen⟩ := Node.exists_level hv (show limit + 1 ≤ v.ancestors.length by omega)
    exact h w (Node.mem_entries.2 hw) hlen
  · intro h v hv
    have hle := h v (Node.mem_entries.1 hv)
    omega

theorem lower_ok_iff {c : Concrete} {t : Node} :
    c.lower = .ok t ↔ t = c.lowerAll ∧ ∀ v ∈ t.visits, v.ancestors.length ≤ 512 := by
  rw [lower_eq_checked, checked_ok_iff, maxDepth, entries_ne_iff]
  constructor
  · rintro ⟨rfl, h⟩
    exact ⟨rfl, h⟩
  · rintro ⟨rfl, h⟩
    exact ⟨rfl, h⟩

/-- A tree with a node below the limit is not lowered, for the first node that lowering comes to on the
first level below the limit. -/
theorem lower_error {c : Concrete} (h : ∃ v ∈ c.lowerAll.visits, 512 < v.ancestors.length) :
    ∃ v, c.lowerAll.entries.find? (·.ancestors.length == 513) = some v ∧
      c.lower = .error ⟨512, v.node.place.line⟩ := by
  obtain ⟨v, hv, hlt⟩ := h
  obtain ⟨w, hw, hlen⟩ := Node.exists_level hv (show 513 ≤ v.ancestors.length by omega)
  have hsome : (c.lowerAll.entries.find? (·.ancestors.length == 513)).isSome := by
    rw [List.find?_isSome]
    exact ⟨w, Node.mem_entries.2 hw, by simpa using hlen⟩
  obtain ⟨u, hu⟩ := Option.isSome_iff_exists.1 hsome
  refine ⟨u, hu, ?_⟩
  rw [lower_eq_checked, checked, maxDepth, hu]

/-- Only kept nodes make a tree too deep. -/
theorem lower_ok_iff_keptAbove {c : Concrete} :
    (∃ t, c.lower = .ok t) ↔ ∀ p, c.Keeps p → (c.keptAbove p).length ≤ 512 := by
  constructor
  · rintro ⟨t, ht⟩ p hp
    obtain ⟨rfl, hall⟩ := lower_ok_iff.1 ht
    obtain ⟨v, hv, hlen⟩ := exists_visit_of_keeps hp
    exact hlen ▸ hall v hv
  · intro h
    refine ⟨c.lowerAll, lower_ok_iff.2 ⟨rfl, fun v hv => ?_⟩⟩
    obtain ⟨p, d, hp, -, -, hlen⟩ := exists_keeps_of_visit hv
    exact hlen ▸ h p hp

/-- Lowering keeps to the limit: it makes the tree that there is without a limit where no node of it has
more than 512 ancestors, and otherwise names the line of the first node with 513 that it comes to. What
is dropped does not count: a tree is too deep where a kept node has more than 512 kept nodes above it,
and the line is that of one with 513. -/
theorem lower_within_limit (c : Concrete) :
    (∀ t, c.lower = .ok t ↔ t = c.lowerAll ∧ ∀ v ∈ t.visits, v.ancestors.length ≤ 512) ∧
      ((∃ t, c.lower = .ok t) ↔ ∀ p, c.Keeps p → (c.keptAbove p).length ≤ 512) ∧
      ((∃ v ∈ c.lowerAll.visits, 512 < v.ancestors.length) →
        ∃ v p d, c.lowerAll.entries.find? (·.ancestors.length == 513) = some v ∧
          c.lower = .error ⟨512, d.place.line⟩ ∧ subtree? c p = some d ∧ d.Becomes v.node ∧
          c.Keeps p ∧ (c.keptAbove p).length = 513) := by
  refine ⟨fun t => lower_ok_iff, lower_ok_iff_keptAbove, fun h => ?_⟩
  obtain ⟨v, hfind, herror⟩ := lower_error h
  have hv := Node.mem_entries.1 (List.mem_of_find?_eq_some hfind)
  have hlen : v.ancestors.length = 513 := by simpa using List.find?_some hfind
  obtain ⟨p, d, hkeeps, hd, hbecomes, hcount⟩ := exists_keeps_of_visit hv
  refine ⟨v, p, d, hfind, ?_, hd, hbecomes, hkeeps, by rw [hcount, hlen]⟩
  rw [herror, hbecomes.1]

/-- Awaits inside one another, one on each line from `row` on, with a name in the last of them. -/
def awaits (row : Nat) : Nat → Concrete
  | 0 => .leaf { kind := "identifier", start := ⟨row, 0⟩ }
  | n + 1 =>
    .ofChildren { kind := "await_expression", start := ⟨row, 0⟩ } [awaits (row + 1) n]

example : (awaits 0 512).lower.toBool = true := by decide +kernel

example : (awaits 0 600).lower.map (fun _ => ()) = .error ⟨512, 514⟩ := by decide +kernel

end Concrete

section
variable [TreeReader] {language : Language} {text : String} {t : Node}

/-- A parsed tree is lowered from the concrete tree that is read. -/
theorem lower_of_parse (h : parse language text = .ok t) :
    (TreeReader.read language text).lower = .ok t := by
  unfold parse treeOf at h
  split at h
  · cases h
  · split at h
    · next hlower =>
      cases h
      exact hlower
    · cases h

/-- No node of a parsed tree has more than 512 ancestors. -/
theorem ancestors_of_parse (h : parse language text = .ok t) : ∀ v ∈ t.visits, v.ancestors.length ≤ 512 :=
  (Concrete.lower_ok_iff.1 (lower_of_parse h)).2

end

end Fanout
