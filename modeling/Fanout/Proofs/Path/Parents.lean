import Mathlib.Data.List.Induction
import Fanout.Settings.Root

/-!
# Components of a path, and the paths on its way up

* `pieces_eq_splitOn` : pieces of a path are what the library's `List.splitOn` gives;
* `components_join` : a path behind another has the components of both, unless it is absolute;
* `parent?_isPrefix`, `parent?_components`, `components_of_parent?_none` : a parent is a shorter beginning
  of a path, at most one component is dropped, and the way up ends where there is no component left;
* `ancestors_eq` : the length of a path is enough for all of its way up.

A parent is cut out of the text. It keeps the dot with which a path begins, and it may be empty.
-/

namespace Fanout.Path

/-! ## Pieces and components -/

theorem splitAt_eq_splitOnP (p : Char → Bool) (cs : List Char) : Text.splitAt p cs = cs.splitOnP p := by
  induction cs with
  | nil => rfl
  | cons c cs ih =>
    rw [Text.splitAt, ih, List.splitOnP_cons_eq_if_modifyHead]
    split
    · rfl
    · have hne : List.splitOnP p cs ≠ [] := List.splitOnP_ne_nil p cs
      cases hcs : List.splitOnP p cs with
      | nil => exact absurd hcs hne
      | cons piece rest => rfl

theorem pieces_eq_splitOn (path : List Char) : pieces path = path.splitOn '/' :=
  splitAt_eq_splitOnP _ _

theorem pieces_append (base path : List Char) : pieces (base ++ '/' :: path) = pieces base ++ pieces path := by
  simp only [pieces, splitAt_eq_splitOnP]
  exact List.splitOnP_append_cons _ _ (by decide)

theorem pieces_of_not_mem {name : List Char} (h : '/' ∉ name) : pieces name = [name] := by
  rw [pieces, splitAt_eq_splitOnP]
  refine List.splitOnP_eq_singleton fun c hc => ?_
  have hne : c ≠ '/' := fun heq => h (heq ▸ hc)
  simpa using hne

theorem intercalate_pieces (path : List Char) : ['/'].intercalate (pieces path) = path := by
  rw [pieces_eq_splitOn, List.intercalate_splitOn]

theorem pieces_intercalate {ps : List (List Char)} (hslash : ∀ p ∈ ps, '/' ∉ p) (hne : ps ≠ []) :
    pieces (['/'].intercalate ps) = ps := by
  rw [pieces_eq_splitOn, List.splitOn_intercalate '/' hslash hne]

/-- A piece has no character at which the text is split. -/
theorem not_of_mem_splitAt {p : Char → Bool} {cs piece : List Char} (h : piece ∈ Text.splitAt p cs) :
    ∀ c ∈ piece, p c = false := by
  induction cs generalizing piece with
  | nil =>
    obtain rfl : piece = [] := List.mem_singleton.1 h
    exact fun c hc => absurd hc List.not_mem_nil
  | cons c cs ih =>
    rw [Text.splitAt] at h
    split at h
    · rcases List.mem_cons.1 h with rfl | h
      · exact fun c hc => absurd hc List.not_mem_nil
      · exact ih h
    · rename_i hc
      have hc : p c = false := by simpa using hc
      split at h
      · obtain rfl : piece = [c] := List.mem_singleton.1 h
        simpa using hc
      · rename_i head rest hcs
        rw [hcs] at ih
        rcases List.mem_cons.1 h with rfl | h
        · exact List.forall_mem_cons.2 ⟨hc, ih List.mem_cons_self⟩
        · exact ih (List.mem_cons_of_mem _ h)

theorem not_mem_of_mem_pieces {path piece : List Char} (h : piece ∈ pieces path) : '/' ∉ piece :=
  fun hslash => absurd (not_of_mem_splitAt h '/' hslash) (by decide)

theorem components_eq (path : List Char) : components path = (pieces path).filter (counts false) := rfl

theorem components_append (base path : List Char) :
    components (base ++ '/' :: path) = components base ++ components path := by
  rw [components_eq, pieces_append, List.filter_append, ← components_eq, ← components_eq]

@[simp] theorem components_nil : components [] = [] := rfl

/-! ## Joined paths -/

/-- A path with a slash at its end, unless it is empty. -/
def glued (base : List Char) : List Char :=
  if base = [] ∨ base.getLast? = some '/' then base else base ++ ['/']

/-- What a path is written behind: nothing if it is absolute. -/
def baseOf (base path : List Char) : List Char := if isAbsolute path then [] else base

theorem join_of_absolute (base : List Char) {path : List Char} (h : isAbsolute path) : join base path = path := by
  simp [join, h]

theorem join_of_relative (base : List Char) {path : List Char} (h : isAbsolute path = false) :
    join base path = glued base ++ path := by
  unfold join glued
  rw [h, Bool.false_or]
  by_cases hbase : base = []
  · simp [hbase]
  · by_cases hlast : base.getLast? = some '/' <;> simp [hbase, hlast]

theorem glued_eq {base : List Char} (h : base ≠ []) :
    ∃ front, glued base = front ++ ['/'] ∧ components front = components base := by
  unfold glued
  split
  · rename_i hslash
    obtain ⟨front, hover⟩ := List.getLast?_eq_some_iff.1 (hslash.resolve_left h)
    refine ⟨front, hover, ?_⟩
    rw [hover, components_append, components_nil, List.append_nil]
  · exact ⟨base, rfl, rfl⟩

theorem glued_append {path : List Char} (base : List Char) (h : path ≠ []) :
    glued (base ++ path) = base ++ glued path := by
  have hlast : (base ++ path).getLast? = path.getLast? := by
    rw [List.getLast?_append, List.getLast?_eq_some_getLast h]
    rfl
  unfold glued
  rw [hlast]
  by_cases hslash : path.getLast? = some '/' <;> simp [h, hslash]

theorem glued_glued (base : List Char) : glued (glued base) = glued base := by
  by_cases h : base = []
  · subst h
    rfl
  · obtain ⟨front, hover, -⟩ := glued_eq h
    rw [hover]
    simp [glued]

theorem components_join (base path : List Char) :
    components (join base path) = components (baseOf base path) ++ components path := by
  unfold baseOf
  cases habs : isAbsolute path with
  | true => rw [join_of_absolute base habs, if_pos rfl, components_nil, List.nil_append]
  | false =>
    rw [join_of_relative base habs, if_neg Bool.false_ne_true]
    by_cases hbase : base = []
    · subst hbase
      rfl
    · obtain ⟨front, hover, hcomponents⟩ := glued_eq hbase
      rw [hover, List.append_assoc, ← hcomponents]
      exact components_append front path

theorem isAbsolute_append {path : List Char} (h : path ≠ []) (more : List Char) :
    isAbsolute (path ++ more) = isAbsolute path := by
  cases path with
  | nil => exact absurd rfl h
  | cons c rest => rfl

theorem join_assoc (a b c : List Char) : join a (join b c) = join (join a b) c := by
  cases hc : isAbsolute c with
  | true => rw [join_of_absolute b hc, join_of_absolute a hc, join_of_absolute _ hc]
  | false =>
    rw [join_of_relative b hc, join_of_relative (join a b) hc]
    by_cases hb : b = []
    · subst hb
      rw [join_of_relative a (show isAbsolute [] = false from rfl), List.append_nil, glued_glued]
      exact join_of_relative a hc
    · have hglued : isAbsolute (glued b ++ c) = isAbsolute b := by
        unfold glued
        split
        · exact isAbsolute_append hb c
        · rw [List.append_assoc, isAbsolute_append hb]
      cases habs : isAbsolute b with
      | true => rw [join_of_absolute a habs, join_of_absolute a (hglued.trans habs)]
      | false =>
        rw [join_of_relative a habs, join_of_relative a (hglued.trans habs), glued_append _ hb,
          List.append_assoc]

theorem isAbsolute_eq_true {path : List Char} (h : isAbsolute path) : ∃ rest, path = '/' :: rest := by
  cases path with
  | nil => simp [isAbsolute] at h
  | cons c rest =>
    obtain rfl : c = '/' := by simpa [isAbsolute] using h
    exact ⟨rest, rfl⟩

/-- A name that a directory can hold. -/
structure IsName (name : List Char) : Prop where
  slash : '/' ∉ name
  counts : Path.counts false name
  up : name ≠ ['.', '.']

theorem IsName.ne_nil {name : List Char} (h : IsName name) : name ≠ [] := by
  rintro rfl
  exact absurd h.counts (by decide)

theorem IsName.not_absolute {name : List Char} (h : IsName name) : isAbsolute name = false := by
  cases hname : isAbsolute name with
  | false => rfl
  | true =>
    obtain ⟨rest, rfl⟩ := isAbsolute_eq_true hname
    exact absurd List.mem_cons_self h.slash

/-- The pieces of a name in a directory. -/
theorem pieces_join {name : List Char} (h : IsName name) (path : List Char) :
    ∃ front, pieces (join path name) = front ++ [name] ∧ front.filter (counts false) = components path := by
  rw [join_of_relative path h.not_absolute]
  by_cases hpath : path = []
  · subst hpath
    exact ⟨[], pieces_of_not_mem h.slash, rfl⟩
  · obtain ⟨front, hover, hcomponents⟩ := glued_eq hpath
    refine ⟨pieces front, ?_, hcomponents⟩
    rw [hover, List.append_assoc, ← pieces_of_not_mem h.slash]
    exact pieces_append front name

/-! ## The longest beginning whose last piece counts -/

theorem counts_of_counts_false {leading : Bool} {piece : List Char} (h : counts false piece) :
    counts leading piece := by
  simp_all [counts]

theorem trimmed_isPrefix (leading : Bool) (ps : List (List Char)) : trimmed leading ps <+: ps := by
  induction ps generalizing leading with
  | nil => exact List.prefix_refl _
  | cons p ps ih =>
    have hrest := ih false
    unfold trimmed
    split
    · split
      · exact ⟨ps, rfl⟩
      · exact List.nil_prefix
    · exact (List.prefix_cons_inj p).2 hrest

/-- What is cut off at the end has no component in it. -/
theorem filter_trimmed (leading : Bool) (ps : List (List Char)) :
    (trimmed leading ps).filter (counts false) = ps.filter (counts false) := by
  induction ps generalizing leading with
  | nil => rfl
  | cons p ps ih =>
    have hrest := ih false
    unfold trimmed
    split
    · rename_i hnil
      rw [hnil] at hrest
      have hps : ps.filter (counts false) = [] := hrest.symm
      rw [List.filter_cons, hps]
      by_cases hp : counts leading p
      · simp only [hp, if_true]
        rw [List.filter_cons, List.filter_nil]
      · have hfalse : ¬ counts false p := fun h => hp (counts_of_counts_false h)
        simp [hp, hfalse]
    · rw [List.filter_cons, List.filter_cons, hrest]

theorem last_trimmed_ne_nil {leading : Bool} {ps kept : List (List Char)} {last : List Char}
    (h : trimmed leading ps = kept ++ [last]) : last ≠ [] := by
  induction ps generalizing leading kept with
  | nil => simp [trimmed] at h
  | cons p ps ih =>
    unfold trimmed at h
    split at h
    · split at h
      · rename_i hp
        obtain ⟨rfl, hlast⟩ := List.append_eq_singleton_iff.1 h.symm |>.resolve_right (by simp)
        rintro rfl
        rw [← List.cons.inj hlast |>.1] at hp
        exact absurd hp (by simp [counts])
      · simp at h
    · cases kept with
      | nil => simp_all
      | cons k kept => exact ih (List.cons.inj h).2

/-! ## Parents -/

/-- The pieces of a parent, if it has any, and what they leave of the pieces of the path. -/
theorem parent?_cases {path parent : List Char} (h : parent? path = some parent) :
    ∃ kept last, trimmed true (pieces path) = kept ++ [last] ∧ last ≠ [] ∧
      (trimmed true kept = [] ∧ parent = (if isAbsolute path then ['/'] else []) ∨
        trimmed true kept ≠ [] ∧ parent = ['/'].intercalate (trimmed true kept)) := by
  unfold parent? at h
  split at h
  · cases h
  · rename_i hne
    have hkept := (List.dropLast_concat_getLast hne).symm
    refine ⟨_, _, hkept, last_trimmed_ne_nil hkept, ?_⟩
    split at h
    · rename_i hnil
      exact .inl ⟨hnil, (Option.some.inj h).symm⟩
    · rename_i hshort
      exact .inr ⟨hshort, (Option.some.inj h).symm⟩

theorem not_mem_of_trimmed {path : List Char} {kept : List (List Char)} {last : List Char}
    (h : trimmed true (pieces path) = kept ++ [last]) : ∀ p ∈ trimmed true kept, '/' ∉ p := by
  intro p hp
  have hkept : p ∈ kept := (trimmed_isPrefix true kept).subset hp
  have hall : p ∈ trimmed true (pieces path) := h ▸ List.mem_append_left _ hkept
  exact not_mem_of_mem_pieces ((trimmed_isPrefix _ _).subset hall)

/-- A parent has the components of the path, less the last one. The dot with which a path begins is none
of them, and it may be what is dropped. -/
theorem parent?_components {path parent : List Char} (h : parent? path = some parent) :
    ∃ last, components path = components parent ++ last ∧ last.length ≤ 1 := by
  obtain ⟨kept, last, hpath, -, hparent⟩ := parent?_cases h
  have hall : components path = components parent ++ [last].filter (counts false) := by
    have hkept : components parent = (trimmed true kept).filter (counts false) := by
      rcases hparent with ⟨hnil, rfl⟩ | ⟨hne, rfl⟩
      · rw [hnil]
        split <;> rfl
      · rw [components_eq, pieces_intercalate (not_mem_of_trimmed hpath) hne]
    rw [components_eq, ← filter_trimmed true, hpath, List.filter_append, hkept, filter_trimmed]
  exact ⟨_, hall, List.length_filter_le _ _⟩

theorem components_of_parent?_none {path : List Char} (h : parent? path = none) : components path = [] := by
  unfold parent? at h
  split at h
  · rename_i hnil
    rw [components_eq, ← filter_trimmed true, hnil, List.filter_nil]
  · split at h <;> cases h

theorem intercalate_isPrefix {ps qs : List (List Char)} (h : ps <+: qs) :
    ['/'].intercalate ps <+: ['/'].intercalate qs := by
  obtain ⟨more, rfl⟩ := h
  induction ps with
  | nil => exact List.nil_prefix
  | cons p ps ih =>
    cases ps with
    | nil =>
      cases more with
      | nil => exact List.prefix_refl _
      | cons q more => simp [List.intercalate]
    | cons p' ps =>
      simp only [List.cons_append, List.intercalate_cons_cons] at ih ⊢
      exact (List.prefix_append_right_inj _).2 ih

/-- A parent is a beginning of the path, and shorter. -/
theorem parent?_isPrefix {path parent : List Char} (h : parent? path = some parent) :
    parent <+: path ∧ parent ≠ path := by
  obtain ⟨kept, last, hpath, hlast, hparent⟩ := parent?_cases h
  rcases hparent with ⟨-, rfl⟩ | ⟨hne, rfl⟩
  · split
    · rename_i habs
      obtain ⟨rest, rfl⟩ := isAbsolute_eq_true habs
      refine ⟨⟨rest, rfl⟩, ?_⟩
      rintro heq
      obtain rfl : [] = rest := (List.cons.inj heq).2
      simp [show trimmed true (pieces ['/']) = [] from rfl] at hpath
    · refine ⟨List.nil_prefix, ?_⟩
      rintro rfl
      simp [show trimmed true (pieces []) = [] from rfl] at hpath
  · have hkept : kept ++ [last] <+: pieces path := hpath ▸ trimmed_isPrefix _ _
    have hshort : trimmed true kept <+: pieces path :=
      (trimmed_isPrefix true kept).trans ((List.prefix_append _ _).trans hkept)
    refine ⟨intercalate_pieces path ▸ intercalate_isPrefix hshort, fun heq => ?_⟩
    have hsame : pieces path = trimmed true kept := by
      rw [← pieces_intercalate (not_mem_of_trimmed hpath) hne, heq]
    have hlong := hkept.length_le
    have hle := (trimmed_isPrefix true kept).length_le
    rw [hsame, List.length_append, List.length_singleton] at hlong
    omega

theorem length_parent?_lt {path parent : List Char} (h : parent? path = some parent) :
    parent.length < path.length := by
  obtain ⟨hbegin, hne⟩ := parent?_isPrefix h
  refine Nat.lt_of_le_of_ne hbegin.length_le fun hlen => hne (hbegin.eq_of_length hlen)

theorem isAbsolute_parent? {path parent : List Char} (h : parent? path = some parent) :
    isAbsolute parent = isAbsolute path := by
  have hbegin := (parent?_isPrefix h).1
  cases parent with
  | cons c rest =>
    obtain ⟨more, rfl⟩ := hbegin
    rfl
  | nil =>
    obtain ⟨kept, last, hpath, -, hparent⟩ := parent?_cases h
    rcases hparent with ⟨-, hnil⟩ | ⟨hne, hnil⟩
    · split at hnil
      · cases hnil
      · rename_i habs
        simpa [isAbsolute] using habs
    · have hpieces := pieces_intercalate (not_mem_of_trimmed hpath) hne
      rw [← hnil] at hpieces
      exact absurd rfl (last_trimmed_ne_nil (show _ = [] ++ [[]] from hpieces.symm))

end Fanout.Path

/-! ## The way up -/

namespace Fanout
open Fanout.Path

theorem upwards_of_length_le {fuel : Nat} {path : List Char} (h : path.length ≤ fuel) :
    upwards fuel path = path :: (parent? path).elim [] ancestors := by
  induction hlen : path.length using Nat.strongRecOn generalizing fuel path with
  | ind n ih =>
    cases fuel with
    | zero =>
      obtain rfl : path = [] := List.length_eq_zero_iff.1 (by omega)
      rfl
    | succ fuel =>
      rw [upwards]
      cases hparent : parent? path with
      | none => rfl
      | some parent =>
        have hlt := length_parent?_lt hparent
        have hfuel : parent.length ≤ fuel := by omega
        simp only [Option.elim_some, ancestors]
        rw [ih _ (by omega) hfuel rfl, ih _ (by omega) (Nat.le_refl _) rfl]

theorem ancestors_eq (path : List Char) : ancestors path = path :: (parent? path).elim [] ancestors :=
  upwards_of_length_le (Nat.le_refl _)

/-- What holds of a path and passes on to parents holds all the way up. -/
theorem forall_mem_ancestors {P : List Char → Prop}
    (hstep : ∀ path parent, parent? path = some parent → P path → P parent) {path : List Char}
    (h : P path) : ∀ a ∈ ancestors path, P a := by
  induction hlen : path.length using Nat.strongRecOn generalizing path with
  | ind n ih =>
    intro a ha
    rw [ancestors_eq] at ha
    rcases List.mem_cons.1 ha with rfl | ha
    · exact h
    · cases hparent : parent? path with
      | none => simp [hparent] at ha
      | some parent =>
        rw [hparent, Option.elim_some] at ha
        have hlt := length_parent?_lt hparent
        exact ih parent.length (by omega) (hstep path parent hparent h) rfl a ha

end Fanout
