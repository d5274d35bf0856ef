import Mathlib.Data.List.Lex
import Mathlib.Data.List.Sort
import Fanout.Grammar.Reading
import Fanout.Proofs.Scan.Agreement

/-!
# The files of a scan as a set

* `key_injective` : paths with one key have the same parts;
* `sortedLT_insertPath`, `mem_insertPath` : a sorted list of paths stays sorted, and holds one path more
  unless the same place is there already;
* `belowRoot`, `mem_below_iff` : what counts of a path below a root, with or without the dot with which the
  root begins;
* `Targeted` : a file that a valid pattern stands for, without a `node_modules` below the root;
* `targets_eq_set` : the files of a scan are those, in strictly increasing order, each with one report.

The paths of a pattern never begin with the dot of the root. So a root that is written with one lies over
none of them by its text, and then its own parts count too.
-/

namespace Fanout

/-! ## The order of paths -/

namespace Path

theorem toNat_injective : Function.Injective Char.toNat := by
  intro c d h
  rw [← Char.ofNat_toNat c, h, Char.ofNat_toNat]

theorem Part.key_injective : Function.Injective Part.key := by
  intro a b h
  cases a with
  | name s =>
    cases b with
    | name t => exact congrArg Part.name (List.map_injective_iff.2 toNat_injective (List.cons.inj h).2)
    | root | here | up => cases (List.cons.inj h).1
  | root | here | up =>
    cases b with
    | root | here | up | name => first | rfl | cases (List.cons.inj h).1

theorem map_key_injective : Function.Injective (List.map Part.key) :=
  List.map_injective_iff.2 Part.key_injective

theorem key_eq_iff {p q : List Char} : key p = key q ↔ parts p = parts q :=
  map_key_injective.eq_iff

end Path

/-- The paths of a list by place, in strictly increasing order. -/
def Ordered (ps : List (List Char)) : Prop := (ps.map Path.key).SortedLT

theorem mem_insertPath {p q : List Char} {ps : List (List Char)} (h : q ∈ insertPath p ps) :
    q = p ∨ q ∈ ps := by
  induction ps with
  | nil => exact .inl (List.mem_singleton.1 h)
  | cons r rs ih =>
    unfold insertPath at h
    split at h
    · exact List.mem_cons.1 h
    · split at h
      · exact .inr h
      · rcases List.mem_cons.1 h with rfl | h
        · exact .inr List.mem_cons_self
        · exact (ih h).imp_right (List.mem_cons_of_mem r)

theorem mem_insertPath_of_mem (p : List Char) {q : List Char} {ps : List (List Char)} (h : q ∈ ps) :
    q ∈ insertPath p ps := by
  induction ps with
  | nil => cases h
  | cons r rs ih =>
    unfold insertPath
    split
    · exact List.mem_cons_of_mem p h
    · split
      · exact h
      · rcases List.mem_cons.1 h with rfl | h
        · exact List.mem_cons_self
        · exact List.mem_cons_of_mem r (ih h)

/-- The place of the path that is put in is there afterwards. -/
theorem exists_mem_insertPath (p : List Char) (ps : List (List Char)) :
    ∃ q ∈ insertPath p ps, Path.key q = Path.key p := by
  induction ps with
  | nil => exact ⟨p, List.mem_cons_self, rfl⟩
  | cons r rs ih =>
    unfold insertPath
    split
    · exact ⟨p, List.mem_cons_self, rfl⟩
    · split
      · rename_i hkey
        exact ⟨r, List.mem_cons_self, hkey.symm⟩
      · obtain ⟨q, hq, hkey⟩ := ih
        exact ⟨q, List.mem_cons_of_mem r hq, hkey⟩

theorem ordered_cons {p : List Char} {ps : List (List Char)} :
    Ordered (p :: ps) ↔ (∀ q ∈ ps, Path.key p < Path.key q) ∧ Ordered ps := by
  simp [Ordered, List.sortedLT_iff_pairwise, List.pairwise_cons]

theorem ordered_insertPath (p : List Char) {ps : List (List Char)} (h : Ordered ps) :
    Ordered (insertPath p ps) := by
  induction ps with
  | nil => exact ordered_cons.2 ⟨fun q hq => (by cases hq), h⟩
  | cons r rs ih =>
    obtain ⟨hr, hrs⟩ := ordered_cons.1 h
    unfold insertPath
    split
    · rename_i hlt
      refine ordered_cons.2 ⟨fun q hq => ?_, h⟩
      rcases List.mem_cons.1 hq with rfl | hq
      · exact hlt
      · exact lt_trans hlt (hr q hq)
    · rename_i hnot
      split
      · exact h
      · rename_i hne
        have hlt : Path.key r < Path.key p := lt_of_le_of_ne (not_lt.1 hnot) (Ne.symm hne)
        refine ordered_cons.2 ⟨fun q hq => ?_, ih hrs⟩
        rcases mem_insertPath hq with rfl | hq
        · exact hlt
        · exact hr q hq

/-- Paths put in one after the other: the list is ordered, and it holds the places of all of them. -/
theorem foldl_insertPath (found ps : List (List Char)) (h : Ordered ps) :
    Ordered (found.foldl (fun ps p => insertPath p ps) ps) ∧
      (∀ q ∈ found.foldl (fun ps p => insertPath p ps) ps, q ∈ found ∨ q ∈ ps) ∧
      ∀ p, p ∈ found ∨ p ∈ ps →
        ∃ q ∈ found.foldl (fun ps p => insertPath p ps) ps, Path.key q = Path.key p := by
  induction found generalizing ps with
  | nil => exact ⟨h, fun q hq => .inr hq, fun p hp => ⟨p, hp.resolve_left List.not_mem_nil, rfl⟩⟩
  | cons a found ih =>
    obtain ⟨hordered, hmem, hplace⟩ := ih (insertPath a ps) (ordered_insertPath a h)
    refine ⟨hordered, fun q hq => ?_, fun p hp => ?_⟩
    · rcases hmem q hq with hfound | hput
      · exact .inl (List.mem_cons_of_mem a hfound)
      · rcases mem_insertPath hput with rfl | hps
        · exact .inl List.mem_cons_self
        · exact .inr hps
    · rcases hp with hp | hp
      · rcases List.mem_cons.1 hp with rfl | hp
        · obtain ⟨q, hq, hkey⟩ := exists_mem_insertPath p ps
          obtain ⟨q', hq', hkey'⟩ := hplace q (.inr hq)
          exact ⟨q', hq', hkey'.trans hkey⟩
        · exact hplace p (.inl hp)
      · exact hplace p (.inr (mem_insertPath_of_mem a hp))

/-! ## Parts below a root -/

/-- What a path has below a root, with or without the dot with which the root begins. All parts of a path
that does not lie below. -/
def belowRoot (root path : List Char) : List Path.Part :=
  ((Path.behind? (Path.parts root) (Path.parts path)).or
    (Path.behind? ((Path.parts root).dropWhile (· = .here)) (Path.parts path))).getD (Path.parts path)

theorem behind?_eq_some {base parts rest : List Path.Part} (h : Path.behind? base parts = some rest) :
    parts = base ++ rest := by
  induction base generalizing parts with
  | nil => exact Option.some.inj h
  | cons a base ih =>
    cases parts with
    | nil => cases h
    | cons b parts =>
      unfold Path.behind? at h
      split at h
      · rename_i hab
        rw [hab, List.cons_append, ih h]
      · cases h

/-- Where the root is written without a dot at its beginning, or has no `node_modules` in itself, only the
parts below it count. -/
theorem mem_below_iff {root : List Char}
    (hroot : (Path.parts root).head? ≠ some .here ∨ vendored ∉ Path.parts root) (path : List Char) :
    vendored ∈ Path.below root path ↔ vendored ∈ belowRoot root path := by
  unfold Path.below belowRoot
  cases hplain : Path.behind? (Path.parts root) (Path.parts path) with
  | some rest => rfl
  | none =>
    rw [Option.none_or]
    cases hbare : Path.behind? ((Path.parts root).dropWhile (· = .here)) (Path.parts path) with
    | none => rfl
    | some rest =>
      have hparts := behind?_eq_some hbare
      rcases hroot with hhead | hfree
      · have hsame : (Path.parts root).dropWhile (· = .here) = Path.parts root := by
          cases hparts : Path.parts root with
          | nil => rfl
          | cons p ps =>
            rw [hparts, List.head?_cons] at hhead
            have hp : p ≠ .here := fun h => hhead (congrArg some h)
            rw [List.dropWhile_cons_of_neg (by simpa using hp)]
        rw [hsame, hplain] at hbare
        cases hbare
      · have hbase : vendored ∉ (Path.parts root).dropWhile (· = .here) :=
          fun h => hfree ((List.dropWhile_sublist _).subset h)
        simp only [Option.getD_none, Option.getD_some, hparts, List.mem_append, hbase, false_or]

/-! ## Targets -/

section
variable {α β : Type}

theorem flatMapM_run (f : α → Id (List β)) (xs : List α) :
    (xs.flatMapM f).run = xs.flatMap fun x => (f x).run := by
  induction xs with
  | nil => rfl
  | cons x xs ih => simp [List.flatMapM_cons, ih]

theorem filterM_run (f : α → Id Bool) (xs : List α) : (xs.filterM f).run = xs.filter fun x => (f x).run := by
  have haux (done : List α) : (xs.filterAuxM f done).run = (xs.filter fun x => (f x).run).reverse ++ done := by
    induction xs generalizing done with
    | nil => rfl
    | cons x xs ih => cases hx : (f x).run <;> simp [List.filterAuxM, hx, ih]
  simp [List.filterM, haux]

end

variable (files : Files Id) (root : List Char)

/-- Whether a pattern is one, as it is written below a root. -/
def IsPattern (pattern : String) : Prop := ∃ g, Glob.ofText (rooted root pattern) = .ok g

/-- A file that one of some patterns stands for, without a `node_modules` below the root. -/
structure Targeted (patterns : List String) (path : List Char) : Prop where
  found : ∃ pattern ∈ patterns, ∃ g, Glob.ofText (rooted root pattern) = .ok g ∧ path ∈ (g.paths files).run
  file : (files.kind? path).run = some .file
  own : vendored ∉ belowRoot root path

theorem mem_matched_iff {pattern : String} {path : List Char} :
    path ∈ (matched files root pattern).run ↔
      ∃ g, Glob.ofText (rooted root pattern) = .ok g ∧ path ∈ (g.paths files).run := by
  unfold matched
  cases Glob.ofText (rooted root pattern) with
  | ok g => simp
  | error fault => simp

theorem targets_eq (patterns : List String) :
    (targets files root patterns).run =
      ((patterns.flatMap fun pattern => (matched files root pattern).run).filter fun path =>
        (isTarget files root path).run).foldl (fun ps p => insertPath p ps) [] := by
  simp only [targets, Id.run_bind, Id.run_pure, flatMapM_run, filterM_run]

variable {files root} in
theorem isTarget_iff (hroot : (Path.parts root).head? ≠ some .here ∨ vendored ∉ Path.parts root)
    {path : List Char} :
    (isTarget files root path).run = true ↔
      (files.kind? path).run = some .file ∧ vendored ∉ belowRoot root path := by
  rw [← mem_below_iff hroot]
  simp [isTarget, isVendored]

variable {files root} in
theorem mem_filtered_iff (hroot : (Path.parts root).head? ≠ some .here ∨ vendored ∉ Path.parts root)
    {patterns : List String} {path : List Char} :
    path ∈ ((patterns.flatMap fun pattern => (matched files root pattern).run).filter fun path =>
        (isTarget files root path).run) ↔ Targeted files root patterns path := by
  rw [List.mem_filter, List.mem_flatMap, isTarget_iff hroot]
  simp only [mem_matched_iff]
  exact ⟨fun ⟨hfound, hfile, hown⟩ => ⟨hfound, hfile, hown⟩, fun h => ⟨h.found, h.file, h.own⟩⟩

variable {files root} in
/-- Patterns that are none, and how often and in which order the others stand, do not matter. -/
theorem Targeted.congr {patterns patterns' : List String}
    (h : ∀ pattern, IsPattern root pattern → (pattern ∈ patterns ↔ pattern ∈ patterns')) {path : List Char}
    (ht : Targeted files root patterns path) : Targeted files root patterns' path := by
  obtain ⟨pattern, hmem, g, hg, hpath⟩ := ht.found
  exact ⟨⟨pattern, (h pattern ⟨g, hg⟩).1 hmem, g, hg, hpath⟩, ht.file, ht.own⟩

variable {files root} in
theorem targets_spec (hroot : (Path.parts root).head? ≠ some .here ∨ vendored ∉ Path.parts root)
    (patterns : List String) :
    Ordered (targets files root patterns).run ∧
      (∀ path ∈ (targets files root patterns).run, Targeted files root patterns path) ∧
      ∀ path, Targeted files root patterns path →
        ∃ q ∈ (targets files root patterns).run, Path.parts q = Path.parts path := by
  rw [targets_eq]
  have hnil : Ordered [] := List.Pairwise.nil.sortedLT
  obtain ⟨hordered, hmem, hplace⟩ := foldl_insertPath
    ((patterns.flatMap fun pattern => (matched files root pattern).run).filter fun path =>
      (isTarget files root path).run) [] hnil
  refine ⟨hordered, fun path hpath => ?_, fun path hpath => ?_⟩
  · exact (mem_filtered_iff hroot).1 ((hmem path hpath).resolve_right List.not_mem_nil)
  · obtain ⟨q, hq, hkey⟩ := hplace path (.inl ((mem_filtered_iff hroot).2 hpath))
    exact ⟨q, hq, Path.key_eq_iff.1 hkey⟩

/-- Where the root is written without a dot at its beginning, or has no `node_modules` in itself: the files
of a scan stand in strictly increasing order of their places, they are files that a valid pattern stands for
and that have no `node_modules` below the root, and every such place is among them. The same places are found
for all lists that hold the same valid patterns. A scan has one report for each of the files, and the provider
is asked once for each that can be read. -/
theorem targets_eq_set [TreeReader] (files : Files Id) (root : List Char) (patterns : List String)
    (hroot : (Path.parts root).head? ≠ some .here ∨ vendored ∉ Path.parts root) :
    let found := (targets files root patterns).run
    (found.map Path.key).SortedLT ∧
      (∀ path ∈ found, Targeted files root patterns path) ∧
      (∀ path, Targeted files root patterns path → ∃ q ∈ found, Path.parts q = Path.parts path) ∧
      (∀ patterns' : List String,
        (∀ pattern, IsPattern root pattern → (pattern ∈ patterns ↔ pattern ∈ patterns')) →
        (targets files root patterns').run.map Path.parts = found.map Path.parts) ∧
      ∀ (insight : Option (String → Insight)) (model : LoadTimeModel) (calls : List String),
        (scan files.lift (insight.map noted) model root patterns).run calls =
          pure (.ofFiles (found.map (FileReport.at insight model files root)),
            calls ++ if insight.isSome then found.filterMap files.text? else []) := by
  intro found
  obtain ⟨hordered, hmem, hplace⟩ := @targets_spec files root hroot patterns
  refine ⟨hordered, hmem, hplace, fun patterns' hsame => ?_, fun insight model calls => ?_⟩
  · obtain ⟨hordered', hmem', hplace'⟩ := @targets_spec files root hroot patterns'
    have hkeys : (targets files root patterns').run.map Path.key = found.map Path.key := by
      refine hordered'.eq_of_mem_iff hordered fun key => ?_
      simp only [List.mem_map]
      constructor
      · rintro ⟨path, hpath, rfl⟩
        have ht := (hmem' path hpath).congr fun pattern h => (hsame pattern h).symm
        obtain ⟨q, hq, hparts⟩ := hplace path ht
        exact ⟨q, hq, Path.key_eq_iff.2 hparts⟩
      · rintro ⟨path, hpath, rfl⟩
        obtain ⟨q, hq, hparts⟩ := hplace' path ((hmem path hpath).congr hsame)
        exact ⟨q, hq, Path.key_eq_iff.2 hparts⟩
    have hmap (ps : List (List Char)) : ps.map Path.key = (ps.map Path.parts).map (List.map Path.Part.key) := by
      rw [List.map_map]
      rfl
    rw [hmap, hmap] at hkeys
    exact List.map_injective_iff.2 Path.map_key_injective hkeys
  · rw [scan_lift, Event.forM_unheard, pure_bind, complete_foundFiles]

/-- A project that lives in a `node_modules`. -/
def vendoredProject : FileTree :=
  .directory [("node_modules".toList, .directory [("r".toList, .directory [("a.ts".toList, .file [])])])]

theorem targets_eq_set_vendoredProject :
    let files := vendoredProject.files "/".toList
    let root := "node_modules/r".toList
    ((Path.parts root).head? ≠ some .here ∨ vendored ∉ Path.parts root) ∧
      (∃ path ∈ (targets files root ["a.ts"]).run, Path.parts path = Path.parts "node_modules/r/a.ts".toList) ∧
      (targets files root ["[", "a.ts", "a.ts"]).run.map Path.parts =
        (targets files root ["a.ts"]).run.map Path.parts := by
  intro files root
  have hroot : (Path.parts root).head? ≠ some .here ∨ vendored ∉ Path.parts root := .inl (by decide)
  obtain ⟨-, -, hplace, hsame, -⟩ := targets_eq_set files root ["a.ts"] hroot
  have hfound : Targeted files root ["a.ts"] "node_modules/r/a.ts".toList :=
    ⟨⟨"a.ts", List.mem_cons_self, (mem_matched_iff files root).1 (by decide +kernel)⟩, by decide +kernel,
      by decide +kernel⟩
  refine ⟨hroot, hplace _ hfound, hsame _ fun pattern ⟨g, hg⟩ => ?_⟩
  have hbracket : pattern ≠ "[" := by
    rintro rfl
    have hnone : (Glob.ofText (rooted root "[")).toOption = none := by decide +kernel
    rw [hg] at hnone
    cases hnone
  simp [hbracket]

/-- With a dot before it, the same root has no files: it does not lie over the paths by its text, and its own
`node_modules` counts. -/
theorem targets_dot :
    let files := vendoredProject.files "/".toList
    let root := "./node_modules/r".toList
    (targets files root ["a.ts"]).run = [] ∧ Targeted files root ["a.ts"] "node_modules/r/a.ts".toList := by
  intro files root
  refine ⟨by decide +kernel, ⟨"a.ts", List.mem_cons_self, ?_⟩, by decide +kernel, by decide +kernel⟩
  exact (mem_matched_iff files root).1 (by decide +kernel)

end Fanout
