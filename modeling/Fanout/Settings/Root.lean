import Fanout.Files.Basic
import Fanout.Settings.Config

/-!
# Finding the configuration

* `findRoot` : the first directory on the way up from a start that holds a configuration file or a
  repository, else the start itself;
* `loadConfig` : the configuration in a directory, from the first of the configuration files there.
-/

namespace Fanout

/-- The names of configuration files, in the order in which they are looked for. -/
def configNames : List String := ["perfsense.toml", "perfsense.yaml", "perfsense.yml"]

def rootMarks : List String := configNames ++ [".git"]

variable {m : Type → Type} [Monad m] (files : Files m)

def existsAt (path : List Char) : m Bool := do pure (← files.kind? path).isSome

/-- Whether one of some names stands in a directory. -/
def holdsAny (path : List Char) (names : List String) : m Bool :=
  names.anyM fun n => existsAt files (Path.join path n.toList)

/-- The way up from a path: the path itself, then without its last part, and so on. -/
def upwards : Nat → List Char → List (List Char)
  | 0, path => [path]
  | fuel + 1, path => path :: (Path.parent? path).elim [] (upwards fuel)

def ancestors (path : List Char) : List (List Char) := upwards path.length path

def findRoot (start : List Char) : m (List Char) := do
  pure ((← (ancestors start).findM? fun p => holdsAny files p rootMarks).getD start)

/-- How the text of a configuration file is read: the first name is that of a TOML file. -/
def readerOf (name : String) : String → Option Config :=
  if name == "perfsense.toml" then Config.ofToml? else Config.ofYaml?

inductive Found
  | absent
  | unreadable
  /-- The file does not hold a configuration. -/
  | invalid (path : List Char)
  | config (c : Config)

def Found.config? : Found → Option Config
  | .config c => some c
  | _ => none

def loadFrom (root : List Char) (name : String) : m Found := do
  let path := Path.join root name.toList
  match ← files.text path with
  | .error _ => pure .unreadable
  | .ok text => pure ((readerOf name text).elim (.invalid path) .config)

def loadConfig (root : List Char) : m Found := do
  match ← configNames.findM? fun n => existsAt files (Path.join root n.toList) with
  | some name => loadFrom files root name
  | none => pure .absent

end Fanout
