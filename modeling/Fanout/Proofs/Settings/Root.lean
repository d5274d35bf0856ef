import Mathlib.Data.List.Find
import Fanout.Proofs.Files.Places
import Fanout.Settings.Effective

/-!
# Which root is found

* `Marked`, `Nearest` : a place that holds a configuration or a repository, and the nearest one of those
  at or over a place, which is the place itself if there is none;
* `exists_mem_before` : the way up passes every place over the start before it gets out of it;
* `findRoot_eq` : what is found is the first marked place on the way up;
* `nearest_findRoot_iff` : it is the nearest one if and only if the way up `Meets` it;
* `discover_nearest` : so an absolute start without `..` always finds the nearest one. A relative one does
  so if a place between the working directory and the start is marked, or none at or over the working
  directory.

The way up is cut out of the text of the start, so from a relative start it ends at the working directory.
-/

namespace Fanout
open FileTree

/-- Whether a configuration or a repository stands in a place. -/
def Marked (root : FileTree) (place : Place) : Prop :=
  ∃ mark ∈ rootMarks, (root.at? (place ++ [mark.toList])).isSome

instance (root : FileTree) (place : Place) : Decidable (Marked root place) :=
  inferInstanceAs (Decidable (∃ mark ∈ rootMarks, _))

/-- The nearest marked place at or over a place, the place itself if there is none. -/
inductive Nearest (root : FileTree) (place : Place) : Place → Prop
  | marked {r : Place} (above : r <+: place) (mark : Marked root r)
      (near : ∀ q, q <+: place → Marked root q → q <+: r) : Nearest root place r
  | unmarked (none : ∀ q, q <+: place → ¬ Marked root q) : Nearest root place place

theorem Nearest.unique {root : FileTree} {place r r' : Place} (h : Nearest root place r)
    (h' : Nearest root place r') : r = r' := by
  cases h with
  | marked above mark near =>
    cases h' with
    | marked above' mark' near' =>
      exact (near' _ above mark).eq_of_length_le (near _ above' mark').length_le
    | unmarked none => exact absurd mark (none _ above)
  | unmarked none =>
    cases h' with
    | marked above' mark' near' => exact absurd mark' (none _ above')
    | unmarked none' => rfl

theorem Nearest.above {root : FileTree} {place r : Place} (h : Nearest root place r) : r <+: place := by
  cases h with
  | marked above mark near => exact above
  | unmarked none => exact List.prefix_refl _

theorem Nearest.not_marked {root : FileTree} {place r : Place} (h : Nearest root place r)
    (hr : ¬ Marked root r) : ∀ q, q <+: place → ¬ Marked root q := by
  cases h with
  | marked above mark near => exact absurd mark hr
  | unmarked none => exact none

variable {root : FileTree} {cwd : List Char}

/-! ## The way up -/

theorem prefix_of_prefix_go {q place : Place} {piece : List Char} (h : q <+: place.go piece)
    (hne : q ≠ place.go piece) : q <+: place := by
  unfold Place.go at h hne
  split at h
  · exact h.trans (List.dropLast_prefix place)
  · rename_i hup
    rw [if_neg hup] at hne
    exact (List.prefix_concat_iff.1 h).resolve_left hne

/-- A place over the start is passed before the way up is outside of that place. -/
theorem exists_mem_before {path a : List Char} {before after : List (List Char)}
    (h : ancestors path = before ++ a :: after) {q : Place} (hq : q <+: placeOf cwd path)
    (hout : ¬ q <+: placeOf cwd a) : ∃ b ∈ before, placeOf cwd b = q := by
  induction before generalizing path with
  | nil =>
    rw [ancestors_eq, List.nil_append] at h
    exact absurd ((List.cons.inj h).1 ▸ hq) hout
  | cons b before ih =>
    rw [ancestors_eq, List.cons_append] at h
    obtain ⟨rfl, hrest⟩ := List.cons.inj h
    cases hparent : Path.parent? path with
    | none => simp [hparent] at hrest
    | some parent =>
      rw [hparent, Option.elim_some] at hrest
      by_cases hover : q <+: placeOf cwd parent
      · obtain ⟨b, hb, hplace⟩ := ih hrest hover
        exact ⟨b, List.mem_cons_of_mem _ hb, hplace⟩
      · refine ⟨path, List.mem_cons_self, ?_⟩
        rcases placeOf_parent? hparent cwd with hsame | ⟨piece, hgo⟩
        · exact absurd (hsame ▸ hq) hover
        · by_contra hne
          exact hover (prefix_of_prefix_go (hgo ▸ hq) fun heq => hne (hgo.trans heq.symm))

/-- Where the way up from a path ends. -/
def topOf (cwd path : List Char) : Place := (Path.components (Path.baseOf cwd path)).foldl Place.go []

theorem topOf_parent? {path parent : List Char} (h : Path.parent? path = some parent) (cwd : List Char) :
    topOf cwd path = topOf cwd parent := by
  rw [topOf, topOf, Path.baseOf, Path.baseOf, Path.isAbsolute_parent? h]

theorem exists_ancestor_top (path : List Char) : ∃ a ∈ ancestors path, placeOf cwd a = topOf cwd path := by
  induction hlen : path.length using Nat.strongRecOn generalizing path with
  | ind n ih =>
    rw [ancestors_eq]
    cases hparent : Path.parent? path with
    | none =>
      refine ⟨path, List.mem_cons_self, ?_⟩
      rw [placeOf_eq, Path.components_of_parent?_none hparent]
      rfl
    | some parent =>
      have hlt := Path.length_parent?_lt hparent
      obtain ⟨a, ha, hplace⟩ := ih _ (by omega) parent rfl
      exact ⟨a, List.mem_cons_of_mem _ ha, hplace.trans (topOf_parent? hparent cwd).symm⟩

theorem placeOf_of_no_up {path : List Char} (hup : ['.', '.'] ∉ Path.components path) :
    placeOf cwd path = topOf cwd path ++ Path.components path := by
  rw [placeOf_eq, Place.foldl_go_of_not_mem _ hup, topOf]

/-- Without `..` the way up leads from the start straight to its top. -/
theorem placeOf_ancestor {path : List Char} (hup : ['.', '.'] ∉ Path.components path) :
    ∀ a ∈ ancestors path, topOf cwd path <+: placeOf cwd a ∧ placeOf cwd a <+: placeOf cwd path := by
  have hstep (b parent : List Char) (hparent : Path.parent? b = some parent)
      (hb : topOf cwd b = topOf cwd path ∧ Path.components b <+: Path.components path) :
      topOf cwd parent = topOf cwd path ∧ Path.components parent <+: Path.components path := by
    obtain ⟨last, hlast, -⟩ := Path.parent?_components hparent
    exact ⟨(topOf_parent? hparent cwd).symm.trans hb.1, (hlast ▸ List.prefix_append _ last).trans hb.2⟩
  intro a ha
  obtain ⟨htop, hbegin⟩ := forall_mem_ancestors hstep ⟨rfl, List.prefix_refl _⟩ a ha
  rw [placeOf_of_no_up hup, placeOf_of_no_up fun h => hup (hbegin.subset h), htop]
  exact ⟨List.prefix_append _ _, (List.prefix_append_right_inj _).2 hbegin⟩

/-! ## What is found -/

theorem isName_of_mem_rootMarks : ∀ mark ∈ rootMarks, Path.IsName mark.toList := by
  have hall : ∀ mark ∈ rootMarks, '/' ∉ mark.toList ∧ Path.counts false mark.toList ∧
      mark.toList ≠ ['.', '.'] := by decide
  exact fun mark hmark => ⟨(hall mark hmark).1, (hall mark hmark).2.1, (hall mark hmark).2.2⟩

theorem exists_standsIn_ancestor {path : List Char} {s : List FileTree × FileTree}
    (h : StandsIn root cwd path s) : ∀ a ∈ ancestors path, ∃ s, StandsIn root cwd a s := by
  refine forall_mem_ancestors ?_ ⟨s, h⟩
  intro b parent hparent ⟨s, hs⟩
  exact hs.parent hparent

theorem existsAt_files (path : List Char) :
    existsAt (root.files cwd) path = pure (root.find? cwd path).isSome :=
  congrArg pure Option.isSome_map

theorem holdsAny_eq {path : List Char} {s : List FileTree × FileTree} (h : StandsIn root cwd path s) :
    (holdsAny (root.files cwd) path rootMarks).run = decide (Marked root (placeOf cwd path)) := by
  have hfound : ∀ mark ∈ rootMarks, (root.find? cwd (Path.join path mark.toList)).isSome =
      (root.at? (placeOf cwd path ++ [mark.toList])).isSome := by
    intro mark hmark
    rw [h.find?_join (isName_of_mem_rootMarks mark hmark), at?_append, h.leads.at?]
    simp only [Option.bind_some, at?]
    cases s.2.entries.lookup mark.toList <;> rfl
  have hany : (holdsAny (root.files cwd) path rootMarks).run =
      rootMarks.any fun mark => (root.find? cwd (Path.join path mark.toList)).isSome := by
    simp only [holdsAny, existsAt_files, List.anyM_pure]
    rfl
  rw [hany, Bool.eq_iff_iff, List.any_eq_true, decide_eq_true_iff]
  constructor
  · rintro ⟨mark, hmark, hsome⟩
    exact ⟨mark, hmark, hfound mark hmark ▸ hsome⟩
  · rintro ⟨mark, hmark, hsome⟩
    exact ⟨mark, hmark, (hfound mark hmark).trans hsome⟩

theorem findM?_run {α : Type} (xs : List α) (f : α → Id Bool) :
    (xs.findM? f).run = xs.find? fun a => (f a).run :=
  List.findM?_pure (m := Id) (fun a => (f a).run) xs

/-- What is found is the first path on the way up that leads to a marked place, else the start. -/
theorem findRoot_eq {start : List Char} {s : List FileTree × FileTree} (h : StandsIn root cwd start s) :
    (findRoot (root.files cwd) start).run =
      ((ancestors start).find? fun a => Marked root (placeOf cwd a)).getD start := by
  have hfind : ((ancestors start).findM? fun a => holdsAny (root.files cwd) a rootMarks).run =
      (ancestors start).find? fun a => Marked root (placeOf cwd a) := by
    rw [findM?_run]
    refine List.find?_congr fun a ha => ?_
    obtain ⟨s', hs'⟩ := exists_standsIn_ancestor h a ha
    exact holdsAny_eq hs'
  exact congrArg (Option.getD · start) hfind

/-- The first marked place on the way up is at or over the start. If there is none on the way up, there is
none at or over the start. -/
def Meets (root : FileTree) (cwd start : List Char) : Prop :=
  match (ancestors start).find? fun a => Marked root (placeOf cwd a) with
  | some a => placeOf cwd a <+: placeOf cwd start
  | none => ∀ q, q <+: placeOf cwd start → ¬ Marked root q

theorem nearest_findRoot_iff {start : List Char} {s : List FileTree × FileTree}
    (h : StandsIn root cwd start s) :
    Nearest root (placeOf cwd start) (placeOf cwd (findRoot (root.files cwd) start).run) ↔
      Meets root cwd start := by
  rw [findRoot_eq h, Meets]
  cases hfind : (ancestors start).find? fun a => Marked root (placeOf cwd a) with
  | none =>
    rw [List.find?_eq_none] at hfind
    have hstart : ¬ Marked root (placeOf cwd start) := by
      simpa using hfind start (ancestors_eq start ▸ List.mem_cons_self)
    exact ⟨fun hnear => hnear.not_marked hstart, fun hnone => .unmarked hnone⟩
  | some a =>
    obtain ⟨hmark, before, after, hsplit, hbefore⟩ := List.find?_eq_some_iff_append.1 hfind
    rw [decide_eq_true_iff] at hmark
    refine ⟨fun hnear => hnear.above, fun hover => .marked hover hmark fun q hq hqmark => ?_⟩
    by_contra hout
    obtain ⟨b, hb, rfl⟩ := exists_mem_before hsplit hq hout
    have hfree := hbefore b hb
    simp [hqmark] at hfree

/-- Without `..` the nearest marked place is met unless all marked places are over the top of the way up. -/
theorem meets_iff {start : List Char} (hup : ['.', '.'] ∉ Path.components start) :
    Meets root cwd start ↔
      (∃ q, topOf cwd start <+: q ∧ q <+: placeOf cwd start ∧ Marked root q) ∨
        ∀ q, q <+: placeOf cwd start → ¬ Marked root q := by
  rw [Meets]
  cases hfind : (ancestors start).find? fun a => Marked root (placeOf cwd a) with
  | some a =>
    have hmark : Marked root (placeOf cwd a) := by simpa using List.find?_some hfind
    obtain ⟨htop, hover⟩ := @placeOf_ancestor cwd start hup a (List.mem_of_find?_eq_some hfind)
    exact iff_of_true hover (.inl ⟨_, htop, hover, hmark⟩)
  | none =>
    rw [List.find?_eq_none] at hfind
    refine (or_iff_right ?_).symm
    rintro ⟨q, htop, hover, hmark⟩
    obtain ⟨b, hb, hplace⟩ := @exists_ancestor_top cwd start
    obtain ⟨before, after, hsplit⟩ := List.append_of_mem hb
    have hpassed : ∃ a ∈ ancestors start, placeOf cwd a = q := by
      by_cases hin : q <+: placeOf cwd b
      · rw [hplace] at hin
        exact ⟨b, hb, hplace.trans (htop.eq_of_length_le hin.length_le)⟩
      · obtain ⟨a, ha, hq⟩ := exists_mem_before hsplit hover hin
        exact ⟨a, hsplit ▸ List.mem_append_left _ ha, hq⟩
    obtain ⟨a, ha, rfl⟩ := hpassed
    exact hfind a ha (decide_eq_true hmark)

/-! ## What is found there -/

/-- The configuration in a directory. -/
def configIn (t : FileTree) : Option Config := do
  let name ← configNames.find? fun n => (t.entries.lookup n.toList).isSome
  let content ← (FileTree.text (t.entries.lookup name.toList)).toOption
  readerOf name content

theorem config?_loadConfig {path : List Char} {s : List FileTree × FileTree}
    (h : StandsIn root cwd path s) :
    (loadConfig (root.files cwd) path).run.config? = configIn s.2 := by
  have hfind (name : String) (hname : name ∈ configNames) :
      root.find? cwd (Path.join path name.toList) = s.2.entries.lookup name.toList :=
    h.find?_join (isName_of_mem_rootMarks name (List.mem_append_left _ hname))
  have hfirst : configNames.findM? (fun n => existsAt (root.files cwd) (Path.join path n.toList)) =
      pure (configNames.find? fun n => (s.2.entries.lookup n.toList).isSome) := by
    simp only [existsAt_files, List.findM?_pure]
    exact congrArg pure (List.find?_congr fun n hn => by rw [hfind n hn])
  simp only [loadConfig, hfirst, pure_bind, configIn]
  cases hname : configNames.find? fun n => (s.2.entries.lookup n.toList).isSome with
  | none => rfl
  | some name =>
    have htext := hfind name (List.mem_of_find?_eq_some hname)
    simp only [loadFrom, files, htext, Option.bind_eq_bind, Option.bind_some]
    cases FileTree.text (s.2.entries.lookup name.toList) with
    | error reason => rfl
    | ok content =>
      show ((readerOf name content).elim (.invalid _) Found.config).config? = readerOf name content
      cases readerOf name content <;> rfl

/-- The directory in which the search starts. -/
def Overrides.start (o : Overrides) : List Char := (o.root.getD ".").toList

theorem discover_eq (o : Overrides) {s : List FileTree × FileTree} (h : StandsIn root cwd o.start s) :
    ∃ s', StandsIn root cwd (findRoot (root.files cwd) o.start).run s' ∧
      (Settings.discover (root.files cwd) o).run =
        .resolve o (findRoot (root.files cwd) o.start).run (configIn s'.2) := by
  have hmem : (findRoot (root.files cwd) o.start).run ∈ ancestors o.start := by
    rw [findRoot_eq h]
    cases hfind : (ancestors o.start).find? fun a => Marked root (placeOf cwd a) with
    | none => exact ancestors_eq o.start ▸ List.mem_cons_self
    | some a => exact List.mem_of_find?_eq_some hfind
  obtain ⟨s', hs'⟩ := exists_standsIn_ancestor h _ hmem
  exact ⟨s', hs', congrArg (Settings.resolve o _) (config?_loadConfig hs')⟩

theorem meets_of_absolute {start : List Char} (hup : ['.', '.'] ∉ Path.components start)
    (habs : Path.isAbsolute start) : Meets root cwd start := by
  have htop : topOf cwd start = [] := by simp [topOf, Path.baseOf, habs]
  rw [meets_iff hup, htop]
  by_cases hsome : ∃ q, q <+: placeOf cwd start ∧ Marked root q
  · obtain ⟨q, hq, hmark⟩ := hsome
    exact .inl ⟨q, List.nil_prefix, hq, hmark⟩
  · exact .inr fun q hq hmark => hsome ⟨q, hq, hmark⟩

theorem meets_iff_of_relative {start : List Char} (hup : ['.', '.'] ∉ Path.components start)
    (hrel : Path.isAbsolute start = false) :
    Meets root cwd start ↔
      (∃ q, placeOf cwd [] <+: q ∧ q <+: placeOf cwd start ∧ Marked root q) ∨
        ∀ q, q <+: placeOf cwd [] → ¬ Marked root q := by
  have htop : topOf cwd start = placeOf cwd [] := by
    rw [topOf, Path.baseOf, hrel, placeOf_eq]
    rfl
  have hover : placeOf cwd [] <+: placeOf cwd start := by
    rw [placeOf_of_no_up hup, htop]
    exact List.prefix_append _ _
  rw [meets_iff hup, htop]
  refine ⟨fun h => h.imp_right fun hnone q hq => hnone q (hq.trans hover), ?_⟩
  rintro (hsome | hnone)
  · exact .inl hsome
  · by_cases hsome : ∃ q, placeOf cwd [] <+: q ∧ q <+: placeOf cwd start ∧ Marked root q
    · exact .inl hsome
    · refine .inr fun q hq hmark => ?_
      rcases List.prefix_or_prefix_of_prefix hq hover with hbelow | hbehind
      · exact hnone q hbelow hmark
      · exact hsome ⟨q, hbehind, hq, hmark⟩

/-- A path that leads to a directory. -/
def NamesDirectory (root : FileTree) (cwd path : List Char) : Prop :=
  ∃ t, root.find? cwd path = some t ∧ t.isDirectory

/-- The root that is found is the nearest marked place at or over the start if and only if the way up meets
it. Without `..`, that is always so for an absolute start; for a relative one it is so if a place from the
working directory down to the start is marked, or none at or over the working directory. Where the way up
from two names of one directory meets it, all settings are the same but for how the root is written. -/
theorem discover_nearest (root : FileTree) (cwd : List Char) (o : Overrides)
    (hdir : NamesDirectory root cwd o.start) :
    (Nearest root (placeOf cwd o.start) (placeOf cwd (Settings.discover (root.files cwd) o).run.root) ↔
      Meets root cwd o.start) ∧
    (['.', '.'] ∉ Path.components o.start → Path.isAbsolute o.start → Meets root cwd o.start) ∧
    (['.', '.'] ∉ Path.components o.start → Path.isAbsolute o.start = false →
      (Meets root cwd o.start ↔
        (∃ q, placeOf cwd [] <+: q ∧ q <+: placeOf cwd o.start ∧ Marked root q) ∨
          ∀ q, q <+: placeOf cwd [] → ¬ Marked root q)) ∧
    ∀ other : Overrides, other = { o with root := other.root } → NamesDirectory root cwd other.start →
      placeOf cwd other.start = placeOf cwd o.start → Meets root cwd o.start → Meets root cwd other.start →
      ∃ path, placeOf cwd path = placeOf cwd (Settings.discover (root.files cwd) o).run.root ∧
        (Settings.discover (root.files cwd) other).run =
          { (Settings.discover (root.files cwd) o).run with root := path } := by
  obtain ⟨t, ht, hdirectory⟩ := hdir
  obtain ⟨s, hs⟩ := standsIn_of_find? ht hdirectory
  refine ⟨nearest_findRoot_iff hs, meets_of_absolute, meets_iff_of_relative, ?_⟩
  rintro other hsame ⟨t', ht', hdirectory'⟩ hplace hmeets hmeets'
  obtain ⟨s', hs'⟩ := standsIn_of_find? ht' hdirectory'
  obtain ⟨found, hfound, hdiscover⟩ := discover_eq o hs
  obtain ⟨found', hfound', hdiscover'⟩ := discover_eq other hs'
  have hnear := (nearest_findRoot_iff hs).2 hmeets
  have hnear' := (nearest_findRoot_iff hs').2 hmeets'
  rw [hplace] at hnear'
  have hroot := hnear'.unique hnear
  have htree : found'.2 = found.2 := by
    have hat := hfound'.leads.at?
    rw [hroot, hfound.leads.at?] at hat
    exact (Option.some.inj hat).symm
  refine ⟨(findRoot (root.files cwd) other.start).run, ?_, ?_⟩
  · rw [hdiscover]
    exact hroot
  · rw [hdiscover', hdiscover, htree, hsame]
    rfl

/-- A project with a configuration, and a file two directories further down. -/
def nestedProject : FileTree :=
  .directory [("r".toList, .directory [("perfsense.toml".toList, .file []),
    ("a".toList, .directory [("b".toList, .directory [("x.ts".toList, .file [])])])])]

theorem discover_nearest_nestedProject :
    NamesDirectory nestedProject "/r".toList ({ root := some "a/b" } : Overrides).start ∧
      Nearest nestedProject ["r".toList, "a".toList, "b".toList] ["r".toList] ∧
      (Settings.discover (nestedProject.files "/r".toList) { root := some "a/b" }).run.configFound ∧
      ∃ path, placeOf "/r".toList path = ["r".toList] ∧
        (Settings.discover (nestedProject.files "/r".toList) { root := some "/r/a/b" }).run =
          { (Settings.discover (nestedProject.files "/r".toList) { root := some "a/b" }).run with
            root := path } := by
  have hdir : NamesDirectory nestedProject "/r".toList ({ root := some "a/b" } : Overrides).start :=
    ⟨_, rfl, rfl⟩
  have hdir' : NamesDirectory nestedProject "/r".toList ({ root := some "/r/a/b" } : Overrides).start :=
    ⟨_, rfl, rfl⟩
  obtain ⟨hnear, -, hrelative, hother⟩ :=
    discover_nearest nestedProject "/r".toList { root := some "a/b" } hdir
  obtain ⟨-, habsolute, -, -⟩ := discover_nearest nestedProject "/r".toList { root := some "/r/a/b" } hdir'
  have hmeets := (hrelative (by decide) (by decide)).2
    (.inl ⟨["r".toList], by decide, by decide, by decide +kernel⟩)
  have hmeets' := habsolute (by decide) (by decide)
  have hother := hother { root := some "/r/a/b" } rfl hdir' (by decide) hmeets hmeets'
  have hstart : placeOf "/r".toList ({ root := some "a/b" } : Overrides).start =
      ["r".toList, "a".toList, "b".toList] := by decide
  have hroot : placeOf "/r".toList
      (Settings.discover (nestedProject.files "/r".toList) { root := some "a/b" }).run.root =
      ["r".toList] := by decide +kernel
  rw [hstart, hroot] at hnear
  exact ⟨hdir, hnear.2 hmeets, by decide +kernel, hroot ▸ hother⟩

/-- From a directory further down the dot finds no marked place, while the same directory in full finds the
one over it. -/
theorem not_nearest_dot :
    NamesDirectory nestedProject "/r/a/b".toList ({} : Overrides).start ∧
      ¬ Nearest nestedProject (placeOf "/r/a/b".toList ({} : Overrides).start)
        (placeOf "/r/a/b".toList (Settings.discover (nestedProject.files "/r/a/b".toList) {}).run.root) ∧
      (Settings.discover (nestedProject.files "/r/a/b".toList) {}).run.configFound = false ∧
      (Settings.discover (nestedProject.files "/r/a/b".toList) { root := some "/r/a/b" }).run.configFound := by
  refine ⟨⟨_, rfl, rfl⟩, fun hnear => ?_, by decide +kernel, by decide +kernel⟩
  have hover : Marked nestedProject ["r".toList] := by decide +kernel
  exact hnear.not_marked (by decide +kernel) ["r".toList] (by decide +kernel) hover

end Fanout
