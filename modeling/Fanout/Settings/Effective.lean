import Fanout.Remote.Error
import Fanout.Settings.Root
import Fanout.Text.Blank

/-!
# Settings in force

* `Overrides` : what the command line says;
* `Settings.resolve` : the command line wins over the configuration, and that over the defaults;
* `AiSettings.credentials`, `GithubSettings.token` : the settings with a secret from the environment.
-/

namespace Fanout

def defaultPatterns : List String := ["src/**/*.ts", "src/**/*.tsx", "src/**/*.js", "src/**/*.jsx"]

structure AiSettings where
  enabled : Bool
  endpoint : String
  model : String
  keyVariable : String
  format : ReplyFormat
  /-- In seconds; no limit if absent. -/
  timeout : Option Nat
  deriving Repr, DecidableEq

structure GithubSettings where
  apiBase : String
  tokenVariable : String
  extensions : List String
  deriving Repr, DecidableEq

structure Settings where
  root : List Char
  configFound : Bool
  output : String
  patterns : List String
  loadTime : LoadTimeModel
  ai : AiSettings
  github : GithubSettings
  deriving Repr, DecidableEq

/-- What the command line says. No patterns means that it says nothing about them. -/
structure Overrides where
  root : Option String := none
  output : Option String := none
  patterns : List String := []
  ai : Option Bool := none

def AiSettings.resolve (enabled : Option Bool) (c : AiConfig) : AiSettings where
  enabled := (enabled.or c.enabled).getD false
  endpoint := c.endpoint.getD "https://api.openai.com/v1"
  model := c.model.getD "gpt-3.5-turbo"
  keyVariable := c.keyVariable.getD "OPENAI_API_KEY"
  format := c.format.getD .json
  timeout := c.timeout

def GithubSettings.resolve (c : GithubConfig) : GithubSettings where
  apiBase := c.apiBase.getD "https://api.github.com"
  tokenVariable := c.tokenVariable.getD "GITHUB_TOKEN"
  extensions := (c.extensions.getD ["ts", "tsx"]).map Path.normalExtension

def resolvePatterns (overrides : List String) (config : Option (List String)) : List String :=
  if !overrides.isEmpty then overrides
  else match config with
    | some (p :: ps) => p :: ps
    | _ => defaultPatterns

/-- The settings in force below a root. -/
def Settings.resolve (o : Overrides) (root : List Char) (found : Option Config) : Settings :=
  let c := found.getD {}
  { root
    configFound := found.isSome
    output := (o.output.or c.output).getD "human"
    patterns := resolvePatterns o.patterns c.patterns
    loadTime := c.loadTime.getD .perIssue
    ai := .resolve o.ai c.ai
    github := .resolve c.github }

variable {m : Type → Type} [Monad m] (files : Files m)

/-- The root to work below, and the configuration there. -/
def discover (o : Overrides) : m (List Char × Found) := do
  let root ← findRoot files (o.root.getD ".").toList
  pure (root, ← loadConfig files root)

def Settings.discover (o : Overrides) : m Settings := do
  let (root, found) ← Fanout.discover files o
  pure (.resolve o root found.config?)

/-! ## Secrets -/

/-- A secret is the value of a variable of the environment, which may not be blank. -/
def secret (name : String) (value : Option String) : Except RemoteError String :=
  match value with
  | some s => if (Text.trim s.toList).isEmpty then .error (.missingCredential name) else .ok s
  | none => .error (.missingCredential name)

structure ChatSettings where
  endpoint : String
  model : String
  key : String
  format : ReplyFormat
  timeout : Option Nat
  deriving Repr, DecidableEq

def AiSettings.credentials (s : AiSettings) (value : Option String) : Except RemoteError ChatSettings := do
  let key ← secret s.keyVariable value
  pure ⟨s.endpoint, s.model, key, s.format, s.timeout⟩

/-- The token, from the value of its variable. -/
def GithubSettings.token (s : GithubSettings) (value : Option String) : Except RemoteError String :=
  secret s.tokenVariable value

end Fanout
