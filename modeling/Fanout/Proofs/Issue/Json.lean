import Fanout.Issue.Json
import Fanout.Proofs.Json.Record
import Fanout.Proofs.Json.RoundTrip

/-!
# Issues are read back

* `Issue.ofJson?_toJson` : an issue is read back from its object, whichever of its parts are absent;
* `Issue.ofText?_written` : so it is from either text of the object.
-/

namespace Fanout
open Json

theorem Severity.ofJson?_toJson (s : Severity) : Severity.ofJson? s.toJson = some s := by
  rw [toJson, ofJson?, string?, Option.map_some, ofLabel_name]

namespace Issue

theorem word?_ofWord (n : UInt32) : word? (ofWord n) = some n := by
  rw [ofWord, ofNat, word?, if_pos n.toNat_lt, UInt32.ofNat_toNat]

theorem record?_toJson (i : Issue) :
    record? keys i.toJson =
      some [some i.severity.toJson, some (.string i.code), some (.string i.title),
        some (.string i.description), i.line.map ofWord, i.column.map ofWord, i.file.map .string,
        i.suggestion.map .string, i.impact.map ofWord] := by
  rw [toJson, members, record?, keys]
  simp only [List.mapM_cons, List.mapM_nil]
  rw [single?_members (k := "severity") rfl, single?_members (k := "code") rfl,
    single?_members (k := "title") rfl, single?_members (k := "description") rfl,
    single?_members (k := "line") rfl, single?_members (k := "column") rfl,
    single?_members (k := "file") rfl, single?_members (k := "suggestion") rfl,
    single?_members (k := "impact") rfl]
  rfl

theorem ofJson?_toJson (i : Issue) : Issue.ofJson? i.toJson = some i := by
  have hword (x : Option UInt32) : optional? word? (x.map ofWord) = some x :=
    optional?_map word?_ofWord (by simp [ofWord, ofNat]) x
  have hstring (x : Option String) : optional? string? (x.map .string) = some x :=
    optional?_map (fun s => (rfl : string? (.string s) = some s)) (by simp) x
  rw [ofJson?, record?_toJson]
  simp only [Option.bind_eq_bind, Option.bind_some, defaulted?, Severity.ofJson?_toJson, string?, hword,
    hstring]

theorem legible_ofWord (levels : Nat) (n : UInt32) : Legible levels (ofWord n) :=
  .number (Number.readsBack_nat (n.toNat_lt.trans (by decide)))

theorem legible_toJson (i : Issue) : Legible 1 i.toJson := by
  have hword (x : Option UInt32) : ∀ v ∈ x.map ofWord, Legible 0 v := fun v hv => by
    obtain ⟨n, -, rfl⟩ := Option.map_eq_some_iff.1 hv
    exact legible_ofWord 0 n
  have hstring (x : Option String) : ∀ v ∈ x.map Json.string, Legible 0 v := fun v hv => by
    obtain ⟨s, -, rfl⟩ := Option.map_eq_some_iff.1 hv
    exact .string s
  refine legible_members (by simp) ?_
  simp only [List.forall_mem_cons]
  exact ⟨hstring (some _), hstring (some _), hstring (some _), hstring (some _), hword _, hword _,
    hstring _, hstring _, hword _, by simp⟩

theorem ofText?_written (i : Issue) : ofText? (compact i.toJson) = some i ∧ ofText? (pretty i.toJson) = some i := by
  rw [ofText?, ofText?, parseRaw?_compact i.legible_toJson, parseRaw?_pretty i.legible_toJson]
  exact ⟨i.ofJson?_toJson, i.ofJson?_toJson⟩

end Issue
end Fanout
