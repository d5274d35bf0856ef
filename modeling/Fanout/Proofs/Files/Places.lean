import Fanout.Proofs.Path.Parents

/-!
# Places in a tree of files

* `Place`, `FileTree.at?` : the names that lead down to a place, and what stands there;
* `placeOf` : the place that a path names, seen from a directory. A `..` leads back one name;
* `FileTree.step`, `FileTree.Leads` : one piece of a path followed, and what the pieces of a path lead to;
* `FileTree.StandsIn` : a path leads to a directory. Then the paths of its parents do so too
  (`StandsIn.parent`), and what stands at a name in it is an entry of that directory
  (`StandsIn.find?_join`).

Nothing leads on from a file, not even a slash, so a path can fail where its components do not. For
directories the components are enough (`foldlM_components`).
-/

namespace Fanout

/-- The names that lead down from the root. -/
abbrev Place := List (List Char)

namespace Place

/-- The place that a component of a path leads to. -/
def go (place : Place) (piece : List Char) : Place :=
  if piece = ['.', '.'] then place.dropLast else place ++ [piece]

theorem foldl_go_of_not_mem (place : Place) {pieces : List (List Char)} (h : ['.', '.'] ∉ pieces) :
    pieces.foldl go place = place ++ pieces := by
  induction pieces generalizing place with
  | nil => simp
  | cons piece rest ih =>
    rw [List.mem_cons, not_or] at h
    rw [List.foldl_cons, go, if_neg (Ne.symm h.1), ih _ h.2, List.append_assoc, List.singleton_append]

end Place

/-- The place that a path names, seen from a directory. -/
def placeOf (cwd path : List Char) : Place :=
  (Path.components (FileTree.absolute cwd path)).foldl Place.go []

theorem placeOf_eq (cwd path : List Char) :
    placeOf cwd path =
      (Path.components path).foldl Place.go ((Path.components (Path.baseOf cwd path)).foldl Place.go []) := by
  rw [placeOf, FileTree.absolute, Path.components_join, List.foldl_append]

/-- A path leads at most one step away from where its parent leads. -/
theorem placeOf_parent? {path parent : List Char} (h : Path.parent? path = some parent) (cwd : List Char) :
    placeOf cwd path = placeOf cwd parent ∨ ∃ piece, placeOf cwd path = (placeOf cwd parent).go piece := by
  obtain ⟨last, hlast, hlen⟩ := Path.parent?_components h
  have hbase : Path.baseOf cwd path = Path.baseOf cwd parent := by
    rw [Path.baseOf, Path.baseOf, Path.isAbsolute_parent? h]
  have hplace : placeOf cwd path = last.foldl Place.go (placeOf cwd parent) := by
    rw [placeOf_eq, placeOf_eq, hlast, List.foldl_append, hbase]
  match last, hlen with
  | [], _ => exact .inl hplace
  | [piece], _ => exact .inr ⟨piece, hplace⟩

namespace FileTree

/-- What stands at a place. -/
def at? : FileTree → Place → Option FileTree
  | t, [] => some t
  | t, name :: rest => (t.entries.lookup name).bind fun next => next.at? rest

theorem at?_append (t : FileTree) (p q : Place) : t.at? (p ++ q) = (t.at? p).bind fun next => next.at? q := by
  induction p generalizing t with
  | nil => rfl
  | cons name p ih =>
    simp only [List.cons_append, at?]
    cases t.entries.lookup name with
    | none => rfl
    | some next => exact ih next

/-! ## Following pieces one by one -/

/-- One piece of a path, followed from a place with the directories above it. -/
def step : List FileTree × FileTree → List Char → Option (List FileTree × FileTree)
  | (_, .file _), _ => none
  | (above, .directory entries), piece =>
    if piece = [] || piece = ['.'] then some (above, .directory entries)
    else if piece = ['.', '.'] then
      match above with
      | [] => some ([], .directory entries)
      | up :: more => some (more, up)
    else (entries.lookup piece).map fun next => (.directory entries :: above, next)

theorem follow_eq (above : List FileTree) (here : FileTree) (pieces : List (List Char)) :
    follow above here pieces = (pieces.foldlM step (above, here)).map (·.2) := by
  induction pieces generalizing above here with
  | nil => rfl
  | cons piece rest ih =>
    rw [List.foldlM_cons]
    cases here with
    | file content => rfl
    | directory entries =>
      simp only [follow, step]
      split
      · exact ih _ _
      · split
        · cases above with
          | nil => exact ih _ _
          | cons up more => exact ih _ _
        · cases entries.lookup piece with
          | none => rfl
          | some next => exact ih _ _

theorem step_of_not_counts {s : List FileTree × FileTree} {piece : List Char}
    (hpiece : ¬ Path.counts false piece) : step s piece = if s.2.isDirectory then some s else none := by
  obtain ⟨above, here⟩ := s
  have hskip : piece = [] ∨ piece = ['.'] := by
    by_cases hempty : piece = []
    · exact .inl hempty
    · exact .inr (by simpa [Path.counts, hempty] using hpiece)
  cases here with
  | file content => rfl
  | directory entries => simp [step, hskip, isDirectory]

/-- A directory is reached by the components alone. -/
theorem foldlM_components (pieces : List (List Char)) (s s' : List FileTree × FileTree)
    (hdir : s'.2.isDirectory) :
    pieces.foldlM step s = some s' ↔ (pieces.filter (Path.counts false)).foldlM step s = some s' := by
  induction pieces generalizing s with
  | nil => rfl
  | cons piece rest ih =>
    by_cases hpiece : Path.counts false piece
    · rw [List.filter_cons_of_pos hpiece, List.foldlM_cons, List.foldlM_cons]
      cases step s piece with
      | none => rfl
      | some next => exact ih next
    · rw [List.filter_cons_of_neg hpiece, List.foldlM_cons, step_of_not_counts hpiece]
      by_cases hs : s.2.isDirectory
      · rw [if_pos hs]
        exact ih s
      · rw [if_neg hs]
        refine iff_of_false (fun h => by cases h) fun h => ?_
        -- From a file no component leads on, and a file is no directory.
        obtain ⟨above, here⟩ := s
        cases here with
        | directory entries => exact hs rfl
        | file content =>
          cases hrest : rest.filter (Path.counts false) with
          | nil =>
            rw [hrest] at h
            cases h
            exact hs hdir
          | cons p ps =>
            rw [hrest] at h
            cases h

/-! ## What pieces lead to -/

section
variable {root : FileTree}

/-- The directories above a place, and what stands there. -/
inductive Leads (root : FileTree) : Place → List FileTree × FileTree → Prop
  | root : Leads root [] ([], root)
  | down {place : Place} {above : List FileTree} {here next : FileTree} {name : List Char}
      (leads : Leads root place (above, here)) (entry : here.entries.lookup name = some next) :
      Leads root (place ++ [name]) (here :: above, next)

theorem Leads.at? {place : Place} {s : List FileTree × FileTree} (h : Leads root place s) :
    root.at? place = some s.2 := by
  induction h with
  | root => rfl
  | down _ entry ih =>
    rw [at?_append, ih]
    simp [FileTree.at?, entry]

theorem Leads.step {place : Place} {s s' : List FileTree × FileTree} {piece : List Char}
    (h : Leads root place s) (hpiece : Path.counts false piece) (hstep : FileTree.step s piece = some s') :
    Leads root (place.go piece) s' := by
  obtain ⟨above, here⟩ := s
  cases here with
  | file content => cases hstep
  | directory entries =>
    have hplain : ¬ (piece = [] ∨ piece = ['.']) := by
      rintro (rfl | rfl) <;> exact absurd hpiece (by decide)
    simp only [FileTree.step, Bool.or_eq_true, decide_eq_true_eq, hplain, if_false] at hstep
    unfold Place.go
    split
    · rename_i hup
      rw [if_pos hup] at hstep
      cases h with
      | root =>
        cases hstep
        exact .root
      | down hleads entry =>
        cases hstep
        rw [List.dropLast_concat]
        exact hleads
    · rename_i hup
      rw [if_neg hup] at hstep
      obtain ⟨next, hentry, rfl⟩ := Option.map_eq_some_iff.1 hstep
      exact .down h hentry

theorem Leads.walk {place : Place} {s s' : List FileTree × FileTree} {pieces : List (List Char)}
    (h : Leads root place s) (hpieces : ∀ p ∈ pieces, Path.counts false p)
    (hwalk : pieces.foldlM FileTree.step s = some s') : Leads root (pieces.foldl Place.go place) s' := by
  induction pieces generalizing place s with
  | nil =>
    cases hwalk
    exact h
  | cons piece rest ih =>
    rw [List.foldlM_cons] at hwalk
    obtain ⟨next, hstep, hrest⟩ := Option.bind_eq_some_iff.1 hwalk
    exact ih (h.step (hpieces piece List.mem_cons_self) hstep)
      (fun p hp => hpieces p (List.mem_cons_of_mem _ hp)) hrest

/-! ## Paths of directories -/

variable {cwd path : List Char}

/-- A path leads to a directory. -/
structure StandsIn (root : FileTree) (cwd path : List Char) (s : List FileTree × FileTree) : Prop where
  walk : (Path.components (absolute cwd path)).foldlM step ([], root) = some s
  directory : s.2.isDirectory

theorem standsIn_of_find? {t : FileTree} (h : root.find? cwd path = some t) (hdir : t.isDirectory) :
    ∃ s, StandsIn root cwd path s := by
  unfold find? at h
  split at h
  · cases h
  · rw [follow_eq] at h
    obtain ⟨s, hwalk, rfl⟩ := Option.map_eq_some_iff.1 h
    exact ⟨s, (foldlM_components _ _ _ hdir).1 hwalk, hdir⟩

theorem StandsIn.leads {s : List FileTree × FileTree} (h : StandsIn root cwd path s) :
    Leads root (placeOf cwd path) s :=
  Leads.root.walk (fun _ hp => (List.mem_filter.1 hp).2) h.walk

/-- The parent of a directory's path leads to a directory. -/
theorem StandsIn.parent {s : List FileTree × FileTree} {parent : List Char} (h : StandsIn root cwd path s)
    (hparent : Path.parent? path = some parent) : ∃ s', StandsIn root cwd parent s' := by
  obtain ⟨last, hlast, -⟩ := Path.parent?_components hparent
  have hbase : Path.baseOf cwd path = Path.baseOf cwd parent := by
    rw [Path.baseOf, Path.baseOf, Path.isAbsolute_parent? hparent]
  have hwalk := h.walk
  rw [absolute, Path.components_join, hlast, hbase, ← List.append_assoc, ← Path.components_join,
    List.foldlM_append] at hwalk
  obtain ⟨s', hover, hrest⟩ := Option.bind_eq_some_iff.1 hwalk
  refine ⟨s', hover, ?_⟩
  obtain ⟨above, here⟩ := s'
  cases here with
  | directory entries => rfl
  | file content =>
    cases last with
    | nil =>
      cases hrest
      exact h.directory
    | cons piece rest => cases hrest

end
end FileTree

/-! ## Names in a directory -/

/-- What stands at a name in a directory is an entry of the directory. -/
theorem FileTree.StandsIn.find?_join {root : FileTree} {cwd path name : List Char}
    {s : List FileTree × FileTree} (h : StandsIn root cwd path s) (hname : Path.IsName name) :
    root.find? cwd (Path.join path name) = s.2.entries.lookup name := by
  obtain ⟨front, hpieces, hover⟩ := Path.pieces_join hname (absolute cwd path)
  have hne : (Path.join path name).isEmpty = false := by
    rw [Path.join_of_relative path hname.not_absolute]
    simp [hname.ne_nil]
  have hwalk : front.foldlM step ([], root) = some s :=
    (foldlM_components _ _ _ h.directory).2 (hover ▸ h.walk)
  have habs : absolute cwd (Path.join path name) = Path.join (absolute cwd path) name :=
    Path.join_assoc cwd path name
  rw [find?, hne, if_neg Bool.false_ne_true, habs, follow_eq, hpieces, List.foldlM_append, hwalk]
  obtain ⟨above, here⟩ := s
  cases here with
  | file content => exact absurd h.directory Bool.false_ne_true
  | directory es =>
    have hplain : ¬ (name = [] ∨ name = ['.']) := by
      rintro (rfl | rfl) <;> exact absurd hname.counts (by decide)
    have hstep : step (above, .directory es) name =
        (es.lookup name).map fun next => (.directory es :: above, next) := by
      simp only [step, Bool.or_eq_true, decide_eq_true_eq, hplain, hname.up, if_false]
    show Option.map (·.2) ([name].foldlM step (above, .directory es)) = es.lookup name
    rw [List.foldlM_cons, hstep]
    cases es.lookup name <;> rfl

end Fanout
