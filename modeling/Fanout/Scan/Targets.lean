import Fanout.Glob.Expand
import Fanout.Scan.Complete

/-!
# Files to analyse

* `targets` : the files below a root that some patterns stand for, each once, in the order of their
  paths. Files in a `node_modules` below the root do not count, nor do patterns that are none;
* `brokenPatterns` : those patterns, each with its fault;
* `scan` : the report of those files.
-/

namespace Fanout

/-- A pattern as it is written below a root. -/
def rooted (root : List Char) (pattern : String) : List Char := Path.join root pattern.toList

def brokenPatterns (root : List Char) (patterns : List String) : List (String × Glob.Fault) :=
  patterns.filterMap fun p =>
    match Glob.ofText (rooted root p) with
    | .error f => some (p, f)
    | .ok _ => none

def vendored : Path.Part := .name "node_modules".toList

/-- Whether a path has a component `node_modules` below a root. -/
def isVendored (root path : List Char) : Bool := (Path.below root path).contains vendored

/-- Puts a path in its place in a sorted list, unless the same place is there already. -/
def insertPath (p : List Char) : List (List Char) → List (List Char)
  | [] => [p]
  | q :: qs =>
    if Path.key p < Path.key q then p :: q :: qs
    else if Path.key p = Path.key q then q :: qs
    else q :: insertPath p qs

variable {m : Type → Type} [Monad m] (files : Files m)

/-- What a pattern stands for, nothing if it is none. -/
def matched (root : List Char) (pattern : String) : m (List (List Char)) :=
  match Glob.ofText (rooted root pattern) with
  | .ok g => g.paths files
  | .error _ => pure []

def isTarget (root path : List Char) : m Bool := do
  pure ((← files.kind? path) == some .file && !isVendored root path)

def targets (root : List Char) (patterns : List String) : m (List (List Char)) := do
  let found ← patterns.flatMapM (matched files root)
  pure ((← found.filterM (isTarget files root)).foldl (fun ps p => insertPath p ps) [])

/-- The name under which a file is reported: its path as it is written from the root. -/
def displayName (root path : List Char) : String :=
  String.ofList ((Path.relativeTo? root path).getD path)

def localFile [TreeReader] (root path : List Char) : m LocalFile := do
  let display := displayName root path
  match ← files.text path with
  | .ok text => pure (.ofText display text (Language.ofPath (String.ofList path)))
  | .error reason => pure (.unreadable display reason)

/-- The files below a root after the local half of their analysis. -/
def localFiles [TreeReader] (root : List Char) (patterns : List String) : m (List LocalFile) := do
  (← targets files root patterns).mapM (localFile files root)

/-- The events of a scan before any insight is asked for. -/
def Event.ofScan (root : List Char) (patterns : List String) (files : List LocalFile) : List Event :=
  (brokenPatterns root patterns).map (fun (p, f) => .brokenPattern p f) ++
    .scanning files.length :: files.map ofLocalFile

def scan [TreeReader] (provider : Option (String → m Insight)) (model : LoadTimeModel)
    (root : List Char) (patterns : List String) (tell : Event → m Unit := Event.unheard) :
    m ScanReport := do
  let found ← localFiles files root patterns
  (Event.ofScan root patterns found).forM tell
  complete provider model found tell

end Fanout
