import Fanout.Settings.Effective

/-!
# Settings by key

* `Key`, `Key.Value`, `Key.default` : what can be set, the values that it may have, and the one it has
  otherwise;
* `Config.value?`, `Overrides.value?`, `Settings.value` : what a configuration and a command line say about a
  key, and the value in force;
* `Settings.ext_value` : settings are equal if their values are;
* `Settings.value_resolve` : one law for all keys.

An empty list of patterns says nothing, in a configuration as on a command line.
-/

namespace Fanout

/-- What a configuration file can set. -/
inductive Key
  | output
  | patterns
  | loadTime
  | aiEnabled
  | aiEndpoint
  | aiModel
  | aiKeyVariable
  | aiFormat
  | aiTimeout
  | githubApiBase
  | githubTokenVariable
  | githubExtensions
  deriving Repr, DecidableEq

namespace Key

/-- The values of a setting. -/
abbrev Value : Key → Type
  | .output | .aiEndpoint | .aiModel | .aiKeyVariable | .githubApiBase | .githubTokenVariable => String
  | .patterns | .githubExtensions => List String
  | .loadTime => LoadTimeModel
  | .aiEnabled => Bool
  | .aiFormat => ReplyFormat
  | .aiTimeout => Option Nat

def default : (k : Key) → k.Value
  | .output => "human"
  | .patterns => defaultPatterns
  | .loadTime => .perIssue
  | .aiEnabled => false
  | .aiEndpoint => "https://api.openai.com/v1"
  | .aiModel => "gpt-3.5-turbo"
  | .aiKeyVariable => "OPENAI_API_KEY"
  | .aiFormat => .json
  | .aiTimeout => none
  | .githubApiBase => "https://api.github.com"
  | .githubTokenVariable => "GITHUB_TOKEN"
  | .githubExtensions => ["ts", "tsx"]

/-- How a value comes into force: extensions in lower case and without their dots, all others as they are. -/
def inForce : (k : Key) → k.Value → k.Value
  | .githubExtensions, extensions => extensions.map Path.normalExtension
  | .output, v | .patterns, v | .loadTime, v | .aiEnabled, v | .aiEndpoint, v | .aiModel, v
  | .aiKeyVariable, v | .aiFormat, v | .aiTimeout, v | .githubApiBase, v | .githubTokenVariable, v => v

end Key

/-! ## What is said about a key -/

/-- A list that says something. -/
def saysList? : Option (List String) → Option (List String)
  | some (p :: ps) => some (p :: ps)
  | _ => none

def Config.value? (c : Config) : (k : Key) → Option k.Value
  | .output => c.output
  | .patterns => saysList? c.patterns
  | .loadTime => c.loadTime
  | .aiEnabled => c.ai.enabled
  | .aiEndpoint => c.ai.endpoint
  | .aiModel => c.ai.model
  | .aiKeyVariable => c.ai.keyVariable
  | .aiFormat => c.ai.format
  | .aiTimeout => c.ai.timeout.map some
  | .githubApiBase => c.github.apiBase
  | .githubTokenVariable => c.github.tokenVariable
  | .githubExtensions => c.github.extensions

/-- The command line says something about three keys. -/
def Overrides.value? (o : Overrides) : (k : Key) → Option k.Value
  | .output => o.output
  | .patterns => saysList? (some o.patterns)
  | .aiEnabled => o.ai
  | _ => none

def Settings.value (s : Settings) : (k : Key) → k.Value
  | .output => s.output
  | .patterns => s.patterns
  | .loadTime => s.loadTime
  | .aiEnabled => s.ai.enabled
  | .aiEndpoint => s.ai.endpoint
  | .aiModel => s.ai.model
  | .aiKeyVariable => s.ai.keyVariable
  | .aiFormat => s.ai.format
  | .aiTimeout => s.ai.timeout
  | .githubApiBase => s.github.apiBase
  | .githubTokenVariable => s.github.tokenVariable
  | .githubExtensions => s.github.extensions

/-- Settings with given values. -/
def Settings.ofValues (root : List Char) (configFound : Bool) (value : (k : Key) → k.Value) : Settings where
  root := root
  configFound := configFound
  output := value .output
  patterns := value .patterns
  loadTime := value .loadTime
  ai := ⟨value .aiEnabled, value .aiEndpoint, value .aiModel, value .aiKeyVariable, value .aiFormat,
    value .aiTimeout⟩
  github := ⟨value .githubApiBase, value .githubTokenVariable, value .githubExtensions⟩

theorem Settings.ofValues_value (s : Settings) : ofValues s.root s.configFound s.value = s := rfl

theorem Settings.ext_value {s t : Settings} (hroot : s.root = t.root) (hfound : s.configFound = t.configFound)
    (h : ∀ k, s.value k = t.value k) : s = t := by
  rw [← s.ofValues_value, ← t.ofValues_value, hroot, hfound, funext h]

theorem Config.value?_empty (k : Key) : ({} : Config).value? k = none := by
  cases k <;> rfl

theorem Config.value?_getD (found : Option Config) (k : Key) :
    (found.getD {}).value? k = found.bind (·.value? k) := by
  cases found with
  | none => exact value?_empty k
  | some c => rfl

theorem resolvePatterns_eq (overrides : List String) (config : Option (List String)) :
    resolvePatterns overrides config =
      ((saysList? (some overrides)).or (saysList? config)).getD defaultPatterns := by
  cases overrides with
  | cons p ps => rfl
  | nil =>
    match config with
    | none | some [] | some (p :: ps) => rfl

/-- The command line wins over the configuration, and that over the default. -/
theorem Settings.value_resolve (o : Overrides) (root : List Char) (found : Option Config) (k : Key) :
    (Settings.resolve o root found).value k =
      k.inForce (((o.value? k).or (found.bind (·.value? k))).getD k.default) := by
  rw [← Config.value?_getD]
  cases k with
  | patterns => exact resolvePatterns_eq o.patterns (found.getD {}).patterns
  | aiTimeout =>
    show (found.getD {}).ai.timeout = ((found.getD {}).ai.timeout.map some).getD none
    cases (found.getD {}).ai.timeout <;> rfl
  | output | loadTime | aiEnabled | aiEndpoint | aiModel | aiKeyVariable | aiFormat | githubApiBase
  | githubTokenVariable | githubExtensions => rfl

end Fanout
