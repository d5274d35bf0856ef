import Fanout.Proofs.Issue.Json

/-!
# Spellings of an issue

* `Respelled` : the members of two objects that say the same about an issue;
* `Issue.parts` : an issue as a list of parts;
* `Issue.spellings_read` : the same is read from respelled members, nothing from members that give a part under
  both of its keys, and an issue from its parts as from its object.
-/

namespace Fanout
open Json

namespace Issue

/-! ## Objects -/

/-- The parts that have a second key. -/
inductive SecondKey : String → String → Prop
  | severity : SecondKey "severity" "type"
  | description : SecondKey "description" "message"

/-- Members in another order, with other members that no part of an issue is read from, or with the second key of a
part for its first. -/
inductive Respelled : List (String × Json) → List (String × Json) → Prop
  | order {a b : List (String × Json)} (h : a.Perm b) : Respelled a b
  | extra {key : String} (h : key ∉ keys.flatten) (v : Json) (a : List (String × Json)) : Respelled a ((key, v) :: a)
  | renamed {key second : String} (h : SecondKey key second) (v : Json) (a : List (String × Json)) :
    Respelled ((key, v) :: a) ((second, v) :: a)
  | symm {a b : List (String × Json)} (h : Respelled a b) : Respelled b a
  | trans {a b c : List (String × Json)} (h : Respelled a b) (h' : Respelled b c) : Respelled a c

theorem SecondKey.contains_eq {key second : String} (h : SecondKey key second) :
    ∀ part ∈ keys, part.contains key = part.contains second := by
  cases h <;> decide

theorem SecondKey.exists_part {key second : String} (h : SecondKey key second) :
    ∃ part ∈ keys, key ∈ part ∧ second ∈ part := by
  cases h <;> decide

theorem SecondKey.ne {key second : String} (h : SecondKey key second) : key ≠ second := by
  cases h <;> decide

theorem Respelled.values_perm {a b : List (String × Json)} (h : Respelled a b) :
    ∀ part ∈ keys, (values part a).Perm (values part b) := by
  intro part hpart
  induction h with
  | order h => exact (h.filter _).map _
  | @extra key h v a =>
    have hother : part.contains key = false := by
      rw [List.contains_eq_mem, decide_eq_false_iff_not]
      exact fun hkey => h (List.mem_flatten_of_mem hpart hkey)
    rw [values, values, List.filter_cons_of_neg (by rw [hother]; exact Bool.false_ne_true)]
  | renamed h v a =>
    rw [values, values, List.filter_cons, List.filter_cons, h.contains_eq part hpart]
    split <;> rfl
  | symm _ ih => exact ih.symm
  | trans _ _ ih ih' => exact ih.trans ih'

theorem ofJson?_congr {v w : Json} (h : record? keys v = record? keys w) : ofJson? v = ofJson? w := by
  rw [ofJson?, ofJson?, h]

theorem ofJson?_of_respelled {a b : List (String × Json)} (h : Respelled a b) :
    ofJson? (.object a) = ofJson? (.object b) :=
  ofJson?_congr (record?_congr h.values_perm)

theorem ofJson?_both {key second : String} (h : SecondKey key second) {members : List (String × Json)} {v w : Json}
    (hv : (key, v) ∈ members) (hw : (second, w) ∈ members) : ofJson? (.object members) = none := by
  obtain ⟨part, hpart, hkey, hsecond⟩ := h.exists_part
  have hne : (key, v) ≠ (second, w) := fun heq => h.ne (Prod.mk.inj heq).1
  rw [ofJson?, record?_eq_none hpart hv hw hne hkey hsecond]
  rfl

/-! ## Lists of parts -/

/-- The parts of an issue in their order, with a null for each that it does not have. -/
def parts (i : Issue) : List Json :=
  [i.severity.toJson, .string i.code, .string i.title, .string i.description, (i.line.map ofWord).getD .null,
    (i.column.map ofWord).getD .null, (i.file.map .string).getD .null, (i.suggestion.map .string).getD .null,
    (i.impact.map ofWord).getD .null]

section
variable {α : Type} {read : Json → Option α} {write : α → Json} (h : ∀ a, read (write a) = some a)
include h

/-- A part that is left off is read as the one that stands for it. -/
theorem defaulted?_ite {p : Prop} [Decidable p] {x absent : α} (hoff : ¬p → write x = write absent) :
    defaulted? read absent (if p then some (write x) else none) = some x := by
  by_cases hp : p
  · rw [if_pos hp]
    exact h x
  · have hx : some x = some absent := by rw [← h x, hoff hp, h absent]
    rw [if_neg hp, hx]
    rfl

theorem optional?_ite (hnull : ∀ a, write a ≠ .null) {p : Prop} [Decidable p] {x : Option α}
    (hoff : ¬p → (x.map write).getD .null = .null) :
    optional? read (if p then some ((x.map write).getD .null) else none) = some x := by
  by_cases hp : p
  · rw [if_pos hp]
    cases x with
    | none => rfl
    | some a => exact optional?_map h hnull (some a)
  · rw [if_neg hp]
    cases x with
    | none => rfl
    | some a => exact absurd (hoff hp) (hnull a)

end

/-- An issue is read from its first parts, if each of the others is as if it were not given. -/
theorem ofJson?_take_parts {i : Issue} {k : Nat} (h : i.parts.drop k = ({} : Issue).parts.drop k) :
    ofJson? (.array (i.parts.take k)) = some i := by
  have hoff (j : Nat) (hj : ¬j < k) : i.parts[j]? = ({} : Issue).parts[j]? := by
    have hdrop := congrArg (fun parts => parts[j - k]?) h
    simp only [List.getElem?_drop, Nat.add_sub_cancel' (Nat.le_of_not_lt hj)] at hdrop
    exact hdrop
  have hstring (s : String) : string? (.string s) = some s := rfl
  have hword (n : UInt32) : ofWord n ≠ .null := by simp [ofWord, ofNat]
  have hlength : i.parts.length = keys.length := rfl
  rw [ofJson?, record?_array_take hlength k]
  simp only [parts, List.mapIdx_cons, List.mapIdx_nil, Nat.reduceAdd, Option.bind_eq_bind, Option.bind_some]
  rw [defaulted?_ite Severity.ofJson?_toJson fun hj => Option.some.inj (hoff 0 hj),
    defaulted?_ite hstring fun hj => Option.some.inj (hoff 1 hj),
    defaulted?_ite hstring fun hj => Option.some.inj (hoff 2 hj),
    defaulted?_ite hstring fun hj => Option.some.inj (hoff 3 hj),
    optional?_ite word?_ofWord hword fun hj => Option.some.inj (hoff 4 hj),
    optional?_ite word?_ofWord hword fun hj => Option.some.inj (hoff 5 hj),
    optional?_ite hstring (by simp) fun hj => Option.some.inj (hoff 6 hj),
    optional?_ite hstring (by simp) fun hj => Option.some.inj (hoff 7 hj),
    optional?_ite word?_ofWord hword fun hj => Option.some.inj (hoff 8 hj)]
  rfl

/-! ## All spellings -/

/-- The same issue is read from respelled members, or none from either; none is read from members that give a part
under both of its keys; and an issue is read from its object and from its parts, of which the last may be left off
where they are as in an issue without any. -/
theorem spellings_read :
    (∀ a b, Respelled a b → ofJson? (.object a) = ofJson? (.object b)) ∧
      (∀ key second, SecondKey key second → ∀ members v w, (key, v) ∈ members → (second, w) ∈ members →
        ofJson? (.object members) = none) ∧
      ∀ (i : Issue) (k : Nat), i.parts.drop k = ({} : Issue).parts.drop k →
        ofJson? (.array (i.parts.take k)) = some i ∧ ofJson? i.toJson = some i := by
  refine ⟨fun a b h => ofJson?_of_respelled h, ?_, ?_⟩
  · intro key second h members v w hv hw
    exact ofJson?_both h hv hw
  · intro i k h
    exact ⟨ofJson?_take_parts h, ofJson?_toJson i⟩

/-- An issue under the keys of its parts. -/
def slowLoop : List (String × Json) :=
  [("severity", .string "Warn"), ("title", .string "Slow loop"), ("line", ofNat 4)]

/-- The same issue under a second key, in another order, with a member of no part. -/
def slowLoopRespelled : List (String × Json) :=
  [("rule", .array []), ("line", ofNat 4), ("title", .string "Slow loop"), ("type", .string "Warn")]

theorem respelled_slowLoop : Respelled slowLoop slowLoopRespelled :=
  .trans (.renamed .severity _ _) <| .trans (.order (List.reverse_perm _).symm) (.extra (by decide) _ _)

/-- An issue without a place has four parts to give. -/
def slowLoopIssue : Issue := { severity := .warning, title := "Slow loop", description := "x" }

theorem spellings_read_slowLoop :
    ofJson? (.object slowLoop) = ofJson? (.object slowLoopRespelled) ∧
      ofJson? (.object (("type", .null) :: slowLoop)) = none ∧
      ofJson? (.array (slowLoopIssue.parts.take 4)) = some slowLoopIssue ∧
      ofJson? slowLoopIssue.toJson = some slowLoopIssue :=
  ⟨spellings_read.1 _ _ respelled_slowLoop,
    spellings_read.2.1 _ _ .severity _ _ _ (.tail _ (.head _)) (.head _), spellings_read.2.2 slowLoopIssue 4 rfl⟩

end Issue
end Fanout
