import Fanout.Scan.Targets

/-!
# Files that stay as they are

* `Files.lift` : files with fixed answers, as files that may be asked in any monad;
* `targets_lift`, `localFile_lift` : to work on such files has no effect, and the outcome is what it is
  without a monad.

Each function of files is taken in turn. What they have in common is that they only ask, and that lists
are walked through by `flatMapM` and `filterM`.
-/

namespace Fanout

variable {m : Type → Type} [Monad m]

/-- Files with fixed answers, as files that may be asked in any monad. -/
def Files.lift (files : Files Id) : Files m where
  kind? path := pure (files.kind? path).run
  names path := pure (files.names path).run
  text path := pure (files.text path).run

variable [LawfulMonad m]

/-! ## Walks through lists -/

section
variable {α β : Type}

theorem flatMapM_lift {f : α → m (List β)} {g : α → Id (List β)} (h : ∀ a, f a = pure (g a).run)
    (xs : List α) : xs.flatMapM f = pure (xs.flatMapM g).run := by
  induction xs with
  | nil => simp
  | cons x xs ih => simp [List.flatMapM_cons, h, ih]

theorem filterM_lift {f : α → m Bool} {g : α → Id Bool} (h : ∀ a, f a = pure (g a).run) (xs : List α) :
    xs.filterM f = pure (xs.filterM g).run := by
  have haux (done : List α) : xs.filterAuxM f done = pure (xs.filterAuxM g done).run := by
    induction xs generalizing done with
    | nil => rfl
    | cons x xs ih => simp [List.filterAuxM, h, ih]
  simp [List.filterM, haux]

end

/-! ## Paths of a pattern -/

namespace Glob
variable (files : Files Id)

theorem isDirectory_lift (path : List Char) :
    isDirectory (m := m) files.lift path = pure (isDirectory files path).run := by
  simp [isDirectory, Files.lift]

theorem sortedNames_lift (path : List Char) :
    sortedNames (m := m) files.lift path = pure (sortedNames files path).run := by
  simp [sortedNames, Files.lift]

theorem descendants_lift (depth : Nat) (path : List Char) :
    descendants (m := m) files.lift depth path = pure (descendants files depth path).run := by
  induction depth generalizing path with
  | zero => rfl
  | succ depth ih =>
    simp only [descendants, isDirectory_lift, sortedNames_lift, pure_bind, Id.run_bind]
    cases (isDirectory files path).run with
    | false => rfl
    | true =>
      refine flatMapM_lift (fun name => ?_) _
      simp [ih]

theorem settle_lift (directoriesOnly : Bool) (path : List Char) :
    settle (m := m) files.lift directoriesOnly path = pure (settle files directoriesOnly path).run := by
  cases directoriesOnly <;> simp [settle, isDirectory_lift]

theorem leadsOn_lift (path text next : List Char) :
    leadsOn (m := m) files.lift path text next = pure (leadsOn files path text next).run := by
  unfold leadsOn
  split
  · exact isDirectory_lift files path
  · simp [Files.lift]

/-- Behind two stars the pattern goes on two components later, so the induction is on their number. -/
theorem enter_lift (directoriesOnly : Bool) (components : List Pattern) (path : List Char) :
    enter (m := m) files.lift directoriesOnly components path =
      pure (enter files directoriesOnly components path).run := by
  induction hn : components.length using Nat.strongRecOn generalizing components path with
  | ind n ih =>
    cases components with
    | nil => exact settle_lift files directoriesOnly path
    | cons p rest =>
      rw [List.length_cons] at hn
      unfold enter
      cases p.isTree with
      | true =>
        simp only [if_true, descendants_lift, pure_bind, Id.run_bind]
        cases rest with
        | nil => exact filterM_lift (isDirectory_lift files) _
        | cons q more =>
          rw [List.length_cons] at hn
          exact flatMapM_lift (fun path => ih more.length (by omega) more path rfl) _
      | false =>
        simp only [Bool.false_eq_true, if_false, isDirectory_lift, leadsOn_lift, sortedNames_lift]
        cases p.literal? with
        | some text =>
          simp only [pure_bind, Id.run_bind]
          cases (leadsOn files path text (child path text)).run with
          | true => exact ih rest.length (by omega) rest _ rfl
          | false => rfl
        | none =>
          simp only [pure_bind, Id.run_bind]
          cases (isDirectory files path).run with
          | true => exact flatMapM_lift (fun path => ih rest.length (by omega) rest path rfl) _
          | false => rfl

end Glob

/-! ## The files of a scan -/

section
variable (files : Files Id)

theorem matched_lift (root : List Char) (pattern : String) :
    matched (m := m) files.lift root pattern = pure (matched files root pattern).run := by
  unfold matched
  split
  · exact Glob.enter_lift files _ _ _
  · rfl

theorem isTarget_lift (root path : List Char) :
    isTarget (m := m) files.lift root path = pure (isTarget files root path).run := by
  simp [isTarget, Files.lift]

theorem targets_lift (root : List Char) (patterns : List String) :
    targets (m := m) files.lift root patterns = pure (targets files root patterns).run := by
  simp only [targets, flatMapM_lift (matched_lift files root), pure_bind,
    filterM_lift (isTarget_lift files root), Id.run_bind, Id.run_pure]

theorem localFile_lift [TreeReader] (root path : List Char) :
    localFile (m := m) files.lift root path = pure (localFile files root path).run := by
  simp only [localFile, Files.lift, pure_bind, Id.run_bind]
  cases (files.text path).run <;> rfl

end

end Fanout
