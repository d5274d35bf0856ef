import Fanout.Files.Basic
import Fanout.Glob.Pattern

/-!
# Paths that a pattern stands for

* `Glob.ofText` : a pattern for whole paths, which is one for each of its components;
* `Glob.paths` : the paths of that form among some files, in the order in which a walk meets them.

A component that stands for one text alone is followed as it is written, so that `.` and `..` lead
where they do in paths. Any other one is held against the names in a directory; it meets `.` and
`..` only if it begins with a dot. Two stars stand for every place below a directory, and the
component behind them is held against the name of each.
-/

namespace Fanout

structure Glob where
  /-- Whether paths start at the root and not at the working directory. -/
  absolute : Bool
  components : List Glob.Pattern
  /-- Whether only directories count, as a slash at the end asks. -/
  directoriesOnly : Bool
  deriving Repr, DecidableEq

namespace Glob

/-- The pieces between slashes, without the empty one behind a last slash. -/
def piecesOf (text : List Char) : List (List Char) :=
  let pieces := Path.pieces text
  if pieces.getLast? = some [] then pieces.dropLast else pieces

/-- Two stars right behind two stars add nothing. -/
def collapse : List Pattern → List Pattern
  | p :: q :: rest => if p.isTree && q.isTree then collapse (q :: rest) else p :: collapse (q :: rest)
  | ps => ps

def ofText (text : List Char) : Except Fault Glob := do
  let _ ← Pattern.ofText text
  let absolute := Path.isAbsolute text
  let rest := if absolute then text.drop 1 else text
  let components ← if rest.isEmpty then pure [[]] else (piecesOf rest).mapM Pattern.ofText
  pure ⟨absolute, collapse components, text.getLast? == some '/'⟩

/-- A name in a directory, as a path. Names in the working directory stand alone. -/
def child (path name : List Char) : List Char :=
  if Path.parts path = [.here] then name else Path.join path name

variable {m : Type → Type} [Monad m] (files : Files m)

def isDirectory (path : List Char) : m Bool := do
  pure ((← files.kind? path) == some .directory)

def sortedNames (path : List Char) : m (List (List Char)) := do
  pure ((← files.names path).mergeSort fun a b => !decide (b < a))

/-- All places below a directory, a directory before what it holds, each with its name. -/
def descendants : Nat → List Char → m (List (List Char × List Char))
  | 0, _ => pure []
  | depth + 1, path => do
    if ← isDirectory files path then
      (← sortedNames files path).flatMapM fun name => do
        let place := child path name
        pure ((place, name) :: (← descendants depth place))
    else pure []

/-- Directories nest no deeper: a path has fewer than 4096 characters, and each level takes two. -/
def deepest : Nat := 2048

/-- A path that has met all components. -/
def settle (directoriesOnly : Bool) (path : List Char) : m (List (List Char)) := do
  if directoriesOnly then pure (if ← isDirectory files path then [path] else []) else pure [path]

def leadsOn (path text next : List Char) : m Bool :=
  if text = ['.'] || text = ['.', '.'] then isDirectory files path
  else do pure (← files.kind? next).isSome

/-- The dots that a pattern meets besides the names in a directory. -/
def dots (p : Pattern) : List (List Char) :=
  if p.head? = some (.char '.') then [['.', '.'], ['.']].filter p.covers else []

/-- The paths that some components stand for, seen from a path. -/
def enter (directoriesOnly : Bool) : List Pattern → List Char → m (List (List Char))
  | [], path => settle files directoriesOnly path
  | p :: rest, path => do
    if p.isTree then
      let below ← descendants files deepest path
      match rest with
      | [] => (below.map (·.1)).filterM (isDirectory files)
      | q :: more =>
        ((below.filter fun d => q.covers d.2).map (·.1)).flatMapM (enter directoriesOnly more)
    else
      match p.literal? with
      | some text =>
        let next := child path text
        if ← leadsOn files path text next then enter directoriesOnly rest next else pure []
      | none =>
        if ← isDirectory files path then
          let names := (← sortedNames files path).filter p.covers
          ((dots p).map (Path.join path) ++ names.map (child path)).flatMapM
            (enter directoriesOnly rest)
        else pure []

/-- The paths among some files that a pattern stands for. -/
def paths (g : Glob) : m (List (List Char)) :=
  enter files g.directoriesOnly g.components (if g.absolute then ['/'] else ['.'])

end Glob

end Fanout
