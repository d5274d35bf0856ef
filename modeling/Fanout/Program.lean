import Fanout.CommandLine.Invocation
import Fanout.Grammar.Reading
import Fanout.Log.Outcome
import Fanout.Remote.Chat
import Fanout.Remote.Github
import Fanout.Report.Output
import Fanout.Scan.Targets

/-!
# The program

* `World m` : what the program may ask of the machine that it runs on;
* `Outcome` : what a run prints, and how it ends;
* `run` : the program on some arguments, the first of which is its name.

A run ends with 1 where it finds something critical or where a part of a review fails, and with 2
where it cannot start.
-/

namespace Fanout

structure World (m : Type → Type) where
  files : Files m
  getVariable : String → m (Option String)
  input : m (List UInt8)
  fetch : Fetch m
  log : String → m Unit

structure Outcome where
  exitCode : UInt32
  output : String := ""
  notices : List String := []
  deriving Repr, DecidableEq

def programVersion : String := "0.1.0"

def logVariables : List String := ["PERFSENSE_LOG", "RUST_LOG"]

/-- Colors are off where this variable is set. -/
def colorVariable : String := "NO_COLOR"

structure Voice where
  filter : Log.Filter
  colors : Bool

def Voice.error (v : Voice) (text : String) : String := errorMark v.colors ++ " " ++ text
def Voice.note (v : Voice) (text : String) : String := noteMark v.colors ++ " " ++ text

variable {m : Type → Type} [Monad m] (w : World m)

def tell (v : Voice) (e : Event) : m Unit :=
  if e.passes v.filter then w.log e.line else pure ()

def settings (v : Voice) (o : Overrides) : m Settings := do
  let (root, found) ← discover w.files o
  (Event.ofFound found).forM (tell w v)
  pure (.resolve o root found.config?)

/-! ## Analysis -/

def askModel (v : Voice) (s : ChatSettings) (source : String) : m Insight :=
  s.insight w.fetch source (tell w v)

/-- The model to ask, if there is to be one, and the notice where it cannot be asked. -/
def provider (v : Voice) (s : AiSettings) : m (Option (String → m Insight) × List String) := do
  if s.enabled then
    match s.credentials (← w.getVariable s.keyVariable) with
    | .ok chat => pure (some (askModel w v chat), [])
    | .error e => do
      tell w v (.insightDisabled e)
      pure (none, [v.note ("remote insight disabled: " ++ e.message)])
  else pure (none, [])

def inputName : String := "stdin.tsx"

/-- The report that a command asks for, or why there is none. -/
def commandReport [TreeReader] (v : Voice) (c : AnalyzeCommand) (s : Settings)
    (ask : Option (String → m Insight)) : m (Except String ScanReport) := do
  if c.stdin then
    match Utf8.decode (← w.input) with
    | .error _ => pure (.error "failed to read stdin: stream did not contain valid UTF-8")
    | .ok cs =>
      let name := c.fileName.getD inputName
      pure (.ok (← scanSource ask s.loadTime name (String.ofList cs) (tell w v)))
  else pure (.ok (← scan w.files ask s.loadTime s.root s.patterns (tell w v)))

def defaultsNotice (v : Voice) (s : Settings) : List String :=
  if !s.configFound && isHuman s.output then
    [v.note "No perfsense.toml found; using defaults."]
  else []

/-- A run that finds something critical ends with 1. -/
def Summary.exitCode (s : Summary) : UInt32 := if 0 < s.critical then 1 else 0

def runAnalyze [TreeReader] (v : Voice) (c : AnalyzeCommand) : m Outcome := do
  let s ← settings w v c.overrides
  let (ask, disabled) ← provider w v s.ai
  let notices := defaultsNotice v s ++ disabled
  match ← commandReport w v c s ask with
  | .error reason => pure { exitCode := 2, notices := notices ++ [v.error reason] }
  | .ok report =>
    pure { exitCode := report.summary.exitCode, output := report.printed s.output v.colors, notices }

/-! ## Reviews -/

/-- A review in which nothing fails ends with 0. -/
def ReviewReport.exitCode (r : ReviewReport) : UInt32 := if r.failures.isEmpty then 0 else 1

def runReview [TreeReader] (v : Voice) (c : ReviewCommand) : m Outcome := do
  let s ← settings w v { root := c.root, output := c.output }
  match (s.github.token (← w.getVariable s.github.tokenVariable)).bind (GithubClient.create s.github.apiBase) with
  | .error e => pure { exitCode := 2, notices := [v.error e.message] }
  | .ok client =>
    let outcome ← reviewOutcome (client.host w.fetch) c.request s.github.extensions c.dryRun
    (Event.ofReview outcome).forM (tell w v)
    let report := ReviewReport.ofOutcome c.dryRun outcome
    pure { exitCode := report.exitCode, output := report.printed s.output v.colors }

/-! ## Commands -/

namespace CommandLine

def usage : String :=
  "Usage: perfsense [-v] version | analyze [OPTIONS] [PATTERNS]... | pr --owner <OWNER> --repo <REPO> --number <NUMBER> [OPTIONS]\n"

def Refusal.text : Refusal → String
  | .help | .version => ""
  | .nothingGiven => "a command is needed"
  | .noCommand => "a command is needed behind the options"
  | .unknownCommand w => "unknown command " ++ w
  | .unknownArgument a => "unexpected argument " ++ a
  | .conflict o => "option --" ++ o ++ " cannot be given here"
  | .noValue o => "option --" ++ o ++ " needs a value"
  | .unneededValue o => "option --" ++ o ++ " takes no value"
  | .badValue o value => "option --" ++ o ++ " cannot be " ++ value
  | .missing os => "missing options:" ++ String.join (os.map fun o => " --" ++ o)

def Refusal.outcome (r : Refusal) : Outcome :=
  match r with
  | .help => { exitCode := r.exitCode, output := usage }
  | .version => { exitCode := r.exitCode, output := "perfsense " ++ programVersion ++ "\n" }
  | _ => { exitCode := r.exitCode, notices := ["error: " ++ r.text, usage] }

end CommandLine

def voice (verbose : Bool) : m Voice := do
  let filter := Log.Filter.inForce (← logVariables.mapM w.getVariable) verbose
  pure ⟨filter, (← w.getVariable colorVariable).isNone⟩

def runCommand [TreeReader] (v : Voice) : Command → m Outcome
  | .version => pure { exitCode := 0, output := programVersion ++ "\n" }
  | .analyze c => runAnalyze w v c
  | .review c => runReview w v c

def run [TreeReader] (args : List String) : m Outcome := do
  match Invocation.ofArguments args with
  | .error r => pure r.outcome
  | .ok i => runCommand w (← voice w i.verbose) i.command

end Fanout
