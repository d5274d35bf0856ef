import Fanout.CommandLine.Arguments
import Fanout.Review.Change
import Fanout.Settings.Effective

/-!
# Invocations

* `Command` : what the program is asked to do;
* `Invocation.ofArguments` : the command in some arguments, the first of which is the name of the
  program.
-/

namespace Fanout

open CommandLine

structure AnalyzeCommand where
  overrides : Overrides := {}
  stdin : Bool := false
  fileName : Option String := none

structure ReviewCommand where
  request : PullRequest
  root : Option String := none
  dryRun : Bool := false
  output : Option String := none

inductive Command
  | version
  | analyze (c : AnalyzeCommand)
  | review (c : ReviewCommand)

structure Invocation where
  verbose : Bool
  command : Command

namespace CommandLine

def commonOptions : List (String × Form) := [("verbose", .flag), ("help", .help)]
def commonLetters : List (Char × String) := [('v', "verbose"), ('h', "help")]

def programShape : Shape where
  options := commonOptions ++ [("version", .version)]
  letters := commonLetters ++ [('V', "version")]
  takesWords := false

def versionShape : Shape := ⟨commonOptions, commonLetters, false⟩

def analyzeShape : Shape where
  options := commonOptions ++
    [("repo-root", .text), ("stdin", .flag), ("file-name", .text), ("output", .text), ("ai", .flag),
      ("no-ai", .flag)]
  letters := commonLetters
  takesWords := true

def reviewShape : Shape where
  options := commonOptions ++
    [("owner", .text), ("repo", .text), ("number", .number), ("repo-root", .text), ("dry-run", .flag),
      ("output", .text)]
  letters := commonLetters
  takesWords := false

def readVersion (args : List String) : Except Refusal Invocation := do
  let g ← versionShape.read {} args
  .ok ⟨g.has "verbose", .version⟩

/-- The two flags for remote insight rule each other out. -/
def readAnalyze (args : List String) : Except Refusal Invocation := do
  let g ← analyzeShape.read {} args
  let ai := if g.has "ai" then some true else if g.has "no-ai" then some false else none
  let overrides : Overrides := ⟨g.text? "repo-root", g.text? "output", g.words, ai⟩
  if g.has "ai" && g.has "no-ai" then .error (.conflict "ai")
  else .ok ⟨g.has "verbose", .analyze ⟨overrides, g.has "stdin", g.text? "file-name"⟩⟩

def readReview (args : List String) : Except Refusal Invocation := do
  let g ← reviewShape.read {} args
  match g.text? "owner", g.text? "repo", g.number? "number" with
  | some owner, some repo, some number =>
    .ok ⟨g.has "verbose",
      .review ⟨⟨owner, repo, number⟩, g.text? "repo-root", g.has "dry-run", g.text? "output"⟩⟩
  | _, _, _ => .error (.missing (["owner", "repo", "number"].filter fun o => !g.has o))

def reader? : String → Option (List String → Except Refusal Invocation)
  | "version" => some readVersion
  | "analyze" => some readAnalyze
  | "pr" => some readReview
  | _ => none

/-- Help on the command that some words name, or on the program. -/
def readHelp : List String → Refusal
  | [] => .help
  | w :: rest =>
    if (reader? w).isSome || w == "help" then
      match rest with
      | [] => .help
      | x :: _ => .unknownCommand x
    else .unknownCommand w

/-- The command that a word names, with the arguments behind it. -/
def readCommand (w : String) (rest : List String) : Except Refusal Invocation :=
  if w == "help" then .error (readHelp rest)
  else match reader? w with
    | some read => read rest
    | none => .error (.unknownCommand w)

end CommandLine

def Invocation.ofArguments (args : List String) : Except Refusal Invocation := do
  let (g, next) ← programShape.readToWord {} (args.drop 1)
  match next with
  | .word w rest =>
    let i ← readCommand w rest
    .ok { i with verbose := i.verbose || g.has "verbose" }
  | .lateWord w =>
    .error (if (reader? w).isSome || w == "help" then .unknownArgument w else .unknownCommand w)
  | .ended => .error (if g.values.isEmpty then .nothingGiven else .noCommand)

end Fanout
