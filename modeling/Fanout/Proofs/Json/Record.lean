import Fanout.Json.Record
import Fanout.Proofs.Fallible
import Fanout.Proofs.Json.Parsing

/-!
# Records are read back

* `single?_members` : a field is read from the only member that has one of its keys;
* `record?_append` : fields under keys of their own are read from the members that give them, whichever
  members with other keys stand before them;
* `record?_congr` : the fields of an object are told by the values under the keys of each, in any order;
* `record?_eq_none` : two members under the keys of one field are too many;
* `record?_array_take` : a field that an array is too short for is absent;
* `optional?_map`, `list?_map` : what is read back alone is read back as a field that may be absent, and in a
  list;
* `legible_members` : members are legible if each of their values is.
-/

namespace Fanout.Json

theorem single?_members {keys : List String} {all : List (String × Option Json)} {k : String}
    {v : Option Json} (h : all.filter (fun m => keys.contains m.1) = [(k, v)]) :
    single? keys (all.filterMap fun (k, v) => v.map (k, ·)) = some v := by
  have hcomm : (all.filterMap fun (k, v) => v.map (k, ·)).filter (fun m => keys.contains m.1) =
      (all.filter fun m => keys.contains m.1).filterMap fun (k, v) => v.map (k, ·) := by
    rw [List.filter_filterMap, List.filterMap_filter]
    refine List.filterMap_congr fun m _ => ?_
    obtain ⟨k, _ | v⟩ := m
    · simp
    · simp [Option.filter]
  rw [single?, hcomm, h]
  cases v <;> rfl

theorem filter_key_eq_singleton {fields : List (String × Json)} (distinct : (fields.map Prod.fst).Nodup)
    {m : String × Json} (hm : m ∈ fields) : fields.filter (fun x => [m.1].contains x.1) = [m] := by
  induction fields with
  | nil => cases hm
  | cons x fields ih =>
    rw [List.map_cons, List.nodup_cons] at distinct
    rcases List.mem_cons.1 hm with rfl | hm
    · have hrest : fields.filter (fun x => [m.1].contains x.1) = [] :=
        List.filter_eq_nil_iff.2 fun y hy hkey => distinct.1 <| by
          rw [← show y.1 = m.1 by simpa using hkey]
          exact List.mem_map_of_mem hy
      rw [List.filter_cons_of_pos (by simp), hrest]
    · have hkey : x.1 ≠ m.1 := fun heq => distinct.1 (heq ▸ List.mem_map_of_mem hm)
      rw [List.filter_cons_of_neg (by simpa using hkey), ih distinct.2 hm]

theorem record?_append {before fields : List (String × Json)} (distinct : (fields.map Prod.fst).Nodup)
    (apart : ∀ m ∈ before, m.1 ∉ fields.map Prod.fst) :
    record? (fields.map fun m => [m.1]) (.object (before ++ fields)) = some (fields.map fun m => some m.2) := by
  rw [record?, List.mapM_map]
  refine mapM_eq_some_map fun m hm => ?_
  have hbefore : before.filter (fun x => [m.1].contains x.1) = [] :=
    List.filter_eq_nil_iff.2 fun x hx hkey => apart x hx <| by
      rw [show x.1 = m.1 by simpa using hkey]
      exact List.mem_map_of_mem hm
  rw [Function.comp_apply, single?, List.filter_append, hbefore, filter_key_eq_singleton distinct hm]
  rfl

/-- The values that are given under some keys. -/
def values (keys : List String) (members : List (String × Json)) : List Json :=
  (members.filter fun m => keys.contains m.1).map Prod.snd

theorem single?_congr {keys : List String} {a b : List (String × Json)} (h : (values keys a).Perm (values keys b)) :
    single? keys a = single? keys b := by
  unfold values at h
  unfold single?
  generalize (a.filter fun m => keys.contains m.1) = ms at h ⊢
  generalize (b.filter fun m => keys.contains m.1) = ns at h ⊢
  rcases ms with _ | ⟨m, _ | ⟨m', ms⟩⟩
  · rw [List.map_eq_nil_iff.1 h.nil_eq.symm]
  · obtain ⟨n, rfl, hvalue⟩ := List.map_eq_singleton_iff.1 (List.singleton_perm.1 h).symm
    exact congrArg (fun v => some (some v)) hvalue.symm
  · have hlength := h.length_eq
    rcases ns with _ | ⟨n, _ | ⟨n', ns⟩⟩
    · cases hlength
    · cases hlength
    · rfl

theorem record?_congr {fields : List (List String)} {a b : List (String × Json)}
    (h : ∀ keys ∈ fields, (values keys a).Perm (values keys b)) :
    record? fields (.object a) = record? fields (.object b) := by
  rw [record?, record?]
  induction fields with
  | nil => rfl
  | cons keys fields ih =>
    obtain ⟨hkeys, hfields⟩ := List.forall_mem_cons.1 h
    rw [List.mapM_cons, List.mapM_cons, single?_congr hkeys, ih hfields]

theorem record?_eq_none {fields : List (List String)} {keys : List String} (hkeys : keys ∈ fields)
    {members : List (String × Json)} {m n : String × Json} (hm : m ∈ members) (hn : n ∈ members) (hne : m ≠ n)
    (hmkey : m.1 ∈ keys) (hnkey : n.1 ∈ keys) : record? fields (.object members) = none := by
  refine mapM_eq_none hkeys ?_
  have hm : m ∈ members.filter fun m => keys.contains m.1 := List.mem_filter.2 ⟨hm, by simpa using hmkey⟩
  have hn : n ∈ members.filter fun m => keys.contains m.1 := List.mem_filter.2 ⟨hn, by simpa using hnkey⟩
  unfold single?
  generalize (members.filter fun m => keys.contains m.1) = ms at hm hn ⊢
  rcases ms with _ | ⟨x, _ | ⟨y, rest⟩⟩
  · cases hm
  · exact absurd ((List.mem_singleton.1 hm).trans (List.mem_singleton.1 hn).symm) hne
  · rfl

theorem record?_array_take {fields : List (List String)} {items : List Json} (h : items.length = fields.length)
    (k : Nat) :
    record? fields (.array (items.take k)) = some (items.mapIdx fun j v => if j < k then some v else none) := by
  rw [record?, if_pos (h ▸ List.length_take_le' k items)]
  refine congrArg some (List.ext_getElem ?_ fun j _ hj => ?_)
  · simp only [List.length_append, List.length_map, List.length_take, List.length_replicate, List.length_mapIdx]
    omega
  · rw [List.length_mapIdx] at hj
    rw [List.getElem_mapIdx, List.getElem_append]
    simp only [List.length_map, List.length_take, List.getElem_map, List.getElem_take, List.getElem_replicate]
    by_cases hk : j < k
    · rw [dif_pos (by omega), if_pos hk]
    · rw [dif_neg (by omega), if_neg hk]

section
variable {α : Type} {read : Json → Option α} {write : α → Json} (h : ∀ a, read (write a) = some a)
include h

theorem optional?_map (hnull : ∀ a, write a ≠ .null) (x : Option α) :
    optional? read (x.map write) = some x := by
  cases x with
  | none => rfl
  | some a =>
    rw [Option.map_some, optional?, h, Option.map_some]
    exact hnull a

theorem list?_map (xs : List α) : list? read (.array (xs.map write)) = some xs := by
  rw [list?, List.mapM_map, mapM_eq_some_map (f := read ∘ write) (g := id) fun x _ => h x, List.map_id]

end

theorem legible_members {levels : Nat} {all : List (String × Option Json)} (keys : (all.map Prod.fst).Nodup)
    (h : ∀ m ∈ all, ∀ v ∈ m.2, Legible levels v) : Legible (levels + 1) (members all) := by
  refine .object (keys.sublist ?_) fun m hm => ?_
  · clear keys h
    induction all with
    | nil => exact .slnil
    | cons m all ih =>
      obtain ⟨k, _ | v⟩ := m
      · exact ih.cons k
      · exact ih.cons_cons k
  · obtain ⟨⟨k, v⟩, hmem, heq⟩ := List.mem_filterMap.1 hm
    obtain ⟨w, hw, rfl⟩ := Option.map_eq_some_iff.1 heq
    exact h _ hmem w hw

end Fanout.Json
