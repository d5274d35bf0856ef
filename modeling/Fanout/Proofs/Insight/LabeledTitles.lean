import Fanout.Proofs.Insight.LabeledSection

/-!
# Titles of a labeled list

* `Bare` : an item whose text is blank, or a tag and blanks;
* `Item.body_eq_nil_iff` : the bare items are those without a body;
* `Item.trimmed_title`, `Item.title_eq_empty_iff` : a title has no blanks around it, and it is empty only where the
  body is;
* `Insight.ofLabeledReply_titles` : the titles of a whole reply.
-/

namespace Fanout
namespace Labeled
open Text

/-! ## Bare items -/

/-- The item has nothing to read: its text is blank, or a tag with blanks behind it. -/
def Bare (line : List Char) : Prop :=
  ∃ text, Numbered line text ∧
    (Blank text ∨
      ∃ word blanks, text = '[' :: (word ++ ']' :: blanks) ∧ word ≠ [] ∧ (∀ c ∈ word, isWordChar c = true) ∧
        blanks ≠ [] ∧ Blank blanks)

theorem tag?_eq_some_iff {cs word rest : List Char} :
    tag? cs = some (word, rest) ↔
      cs = '[' :: (word ++ ']' :: rest) ∧ word ≠ [] ∧ ∀ c ∈ word, isWordChar c = true := by
  constructor
  · intro h
    unfold tag? at h
    split at h
    · next cs =>
      simp only at h
      split at h
      · next rest' hdrop =>
        split_ifs at h with hword
        cases h
        refine ⟨?_, by simpa using hword, fun _ => List.mem_takeWhile_imp⟩
        rw [← hdrop, List.takeWhile_append_dropWhile]
      · cases h
    · cases h
  · rintro ⟨rfl, hne, hword⟩
    have hbracket : isWordChar ']' = false := by decide +kernel
    rw [tag?, List.takeWhile_append_of_pos hword, List.dropWhile_append_of_pos hword,
      List.takeWhile_cons_of_neg (by simp [hbracket]), List.dropWhile_cons_of_neg (by simp [hbracket]),
      List.append_nil]
    simp [hne]

namespace Item
variable {line : List Char} {i : Item}

theorem trimmed_body (h : ofLine? line = some i) : Trimmed i.body := by
  obtain ⟨ordinal, rest, -, -, -, htext⟩ := exists_ordinal h
  obtain ⟨word, after, -, -, rfl⟩ | ⟨-, rfl⟩ := ofText?_cases htext
  · exact trimmed_trim after
  · exact trimmed_trim rest

/-- An item has no body where its text is blank, and where only blanks follow its tag. -/
theorem body_eq_nil_iff (h : ofLine? line = some i) : i.body = [] ↔ Bare line := by
  constructor
  · intro hbody
    obtain ⟨ordinal, rest, rfl, hordinal, hblanks, htext⟩ := exists_ordinal h
    refine ⟨_, ⟨ordinal, _, by rw [List.takeWhile_append_dropWhile], hordinal, hblanks, blank_takeWhile rest⟩, ?_⟩
    obtain ⟨word, after, htag, hafter, rfl⟩ | ⟨-, rfl⟩ := ofText?_cases htext
    · obtain ⟨hcs, hne, hword⟩ := tag?_eq_some_iff.1 htag
      exact .inr ⟨word, after, hcs, hne, hword, hafter, trim_eq_nil_iff.1 hbody⟩
    · refine .inl fun c hc => trim_eq_nil_iff.1 hbody c ?_
      exact (List.dropWhile_sublist isBlank).subset hc
  · rintro ⟨text, hnumbered, htext⟩
    obtain ⟨gap, -, hline⟩ := ofLine?_numbered hnumbered
    rw [hline] at h
    obtain hblank | ⟨word, blanks, rfl, hne, hword, hblanks, hblank⟩ := htext
    · rw [blank_iff_dropWhile.1 hblank] at h
      obtain ⟨word, rest, htag, -, -⟩ | ⟨-, rfl⟩ := ofText?_cases h
      · cases htag
      · rfl
    · have htag : tag? ('[' :: (word ++ ']' :: blanks)) = some (word, blanks) :=
        tag?_eq_some_iff.2 ⟨rfl, hne, hword⟩
      rw [List.dropWhile_cons_of_neg (by decide)] at h
      obtain ⟨word', rest, htag', -, rfl⟩ | ⟨hnone, -⟩ := ofText?_cases h
      · rw [htag] at htag'
        cases htag'
        exact trim_eq_nil_iff.2 hblank
      · exact absurd (hnone _ _ htag) hblanks

/-! ## Titles -/

/-- The title is the body, or what stands in it before a blank. -/
theorem exists_title (i : Item) :
    ∃ front after, i.body = front ++ after ∧ (after = [] ∨ after.head? = some ' ') ∧
      i.issue.title = String.ofList (trim front) := by
  simp only [issue]
  cases hcut : cutOnce " - ".toList i.body with
  | none => exact ⟨i.body, [], by simp, .inl rfl, rfl⟩
  | some cut => exact ⟨cut.1, " - ".toList ++ cut.2, eq_append_of_cutOnce hcut, .inr rfl, rfl⟩

theorem trimmed_title (i : Item) : Trimmed i.issue.title.toList := by
  obtain ⟨front, -, -, -, htitle⟩ := i.exists_title
  rw [htitle, String.toList_ofList]
  exact trimmed_trim front

theorem title_eq_empty_iff (h : Trimmed i.body) : i.issue.title = "" ↔ i.body = [] := by
  obtain ⟨front, after, hbody, hafter, htitle⟩ := i.exists_title
  have hempty : i.issue.title = "" ↔ Blank front := by
    rw [htitle, ← String.toList_inj, String.toList_ofList]
    exact trim_eq_nil_iff
  rw [hempty]
  constructor
  · intro hblank
    cases front with
    | nil =>
      obtain rfl | hspace := hafter
      · exact hbody
      · have hhead : i.body.head? = some ' ' := by rw [hbody, List.nil_append, hspace]
        exact absurd (h.1 ' ' hhead) (by decide)
    | cons c front =>
      have hhead : i.body.head? = some c := by
        rw [hbody]
        rfl
      have hc := h.1 c hhead
      rw [hblank c List.mem_cons_self] at hc
      cases hc
  · intro hnil
    rw [hnil] at hbody
    obtain ⟨rfl, -⟩ := List.append_eq_nil_iff.1 hbody.symm
    exact nofun

end Item

end Labeled
open Labeled Text

namespace Insight

/-- The title of a listed issue has no blanks around it, and it is empty only where the item is bare. -/
theorem ofLabeledReply_titles (text : String) :
    List.Forall₂ (fun line i => Trimmed i.title.toList ∧ (i.title = "" ↔ Bare line)) (itemLines text.toList)
      (ofLabeledReply text).additionalIssues := by
  change List.Forall₂ _ _ (listedIssues text.toList)
  rw [listedIssues_eq]
  refine (forall₂_items (below (lines text.toList))).imp fun line i hitem => ?_
  obtain ⟨item, hline, rfl⟩ := hitem
  refine ⟨item.trimmed_title, ?_⟩
  rw [item.title_eq_empty_iff (Item.trimmed_body hline), Item.body_eq_nil_iff hline]

/-- A number and two blanks are an item, and its title is empty. -/
theorem not_forall_titled :
    ¬∀ text, ∀ i ∈ (ofLabeledReply text).additionalIssues, i.title ≠ "" ∧ Trimmed i.title.toList := by
  intro titled
  have hlisted : { severity := .info } ∈ (ofLabeledReply "Issues:\n1.  ").additionalIssues := by decide +kernel
  exact (titled _ _ hlisted).1 rfl

end Insight
end Fanout
