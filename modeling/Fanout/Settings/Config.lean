import Fanout.Impact.Metrics
import Fanout.Insight.Basic
import Fanout.Settings.View

/-!
# Configuration

* `Config` : what a configuration file says, each part of which may be absent;
* `Config.read?` : the configuration in a value. A value that does not fit makes all of it unreadable;
* `Config.ofToml?`, `Config.ofYaml?` : the configuration in a text.
-/

namespace Fanout

structure AiConfig where
  enabled : Option Bool := none
  endpoint : Option String := none
  model : Option String := none
  /-- The name of the environment variable that holds the key. -/
  keyVariable : Option String := none
  format : Option ReplyFormat := none
  timeout : Option Nat := none
  deriving Repr, DecidableEq

structure GithubConfig where
  apiBase : Option String := none
  tokenVariable : Option String := none
  extensions : Option (List String) := none
  deriving Repr, DecidableEq

structure Config where
  output : Option String := none
  patterns : Option (List String) := none
  loadTime : Option LoadTimeModel := none
  ai : AiConfig := {}
  github : GithubConfig := {}
  deriving Repr, DecidableEq

namespace Config

variable {α : Type} (view : View α)

def readPatterns? (v : α) : Option (Option (List String)) := do
  match ← view.record? 1 ["patterns"] v with
  | [patterns] => maybe? view.texts? patterns
  | _ => none

def readLoadTime? (v : α) : Option (Option LoadTimeModel) := do
  match ← view.record? 1 ["load_time"] v with
  | [model] => maybe? (fun m => (view.choice? m).bind LoadTimeModel.ofName?) model
  | _ => none

def readAi? (v : α) : Option AiConfig := do
  match ← view.record? 6 ["enabled", "endpoint", "model", "api_key_env", "format", "timeout_secs"] v with
  | [enabled, endpoint, model, keyVariable, format, timeout] =>
    some {
      enabled := ← maybe? view.flag? enabled
      endpoint := ← maybe? view.text? endpoint
      model := ← maybe? view.text? model
      keyVariable := ← maybe? view.text? keyVariable
      format := ← maybe? (fun f => (view.choice? f).bind ReplyFormat.ofName?) format
      timeout := ← maybe? view.count? timeout }
  | _ => none

def readGithub? (v : α) : Option GithubConfig := do
  match ← view.record? 3 ["api_base", "token_env", "extensions"] v with
  | [apiBase, tokenVariable, extensions] =>
    some {
      apiBase := ← maybe? view.text? apiBase
      tokenVariable := ← maybe? view.text? tokenVariable
      extensions := ← maybe? view.texts? extensions }
  | _ => none

/-- A section, or what stands for it where it is absent. -/
def section? {β : Type} (read : α → Option β) (absent : β) (v : Option α) : Option β :=
  v.elim (some absent) read

def read? (v : α) : Option Config := do
  match ← view.record? 1 ["output", "analyze", "metrics", "ai", "github"] v with
  | [output, analyze, metrics, ai, github] =>
    some {
      output := ← maybe? view.text? output
      patterns := ← section? (readPatterns? view) none analyze
      loadTime := ← section? (readLoadTime? view) none metrics
      ai := ← section? (readAi? view) {} ai
      github := ← section? (readGithub? view) {} github }
  | _ => none

def ofToml? (text : String) : Option Config := do
  read? Toml.view (← Toml.document? text.toList)

def ofYaml? (text : String) : Option Config := do
  let d ← Yaml.document? text.toList
  read? (Yaml.view d) d.root

end Config

end Fanout
