import Fanout.Text.Ascii

/-!
# Arguments

* `Shape` : the options of a command, and whether it takes words;
* `Refusal` : why arguments are refused;
* `Shape.read` : the options and words in some arguments;
* `Shape.readToWord` : the options before the first word.

The value of an option is checked when the next option or word begins, so that of two faults the
one that ends first is reported.
-/

namespace Fanout.CommandLine

inductive Refusal
  | help
  | version
  | nothingGiven
  | noCommand
  | unknownCommand (word : String)
  | unknownArgument (word : String)
  /-- An option is given twice, or with one that rules it out. -/
  | conflict (option : String)
  | noValue (option : String)
  | unneededValue (option : String)
  | badValue (option value : String)
  | missing (options : List String)
  deriving Repr, DecidableEq

/-- Asking for help or the version is no failure. -/
def Refusal.exitCode : Refusal → UInt32
  | .help | .version => 0
  | _ => 2

inductive Form
  | flag
  | text
  /-- A whole number of 64 bits. -/
  | number
  | help
  | version
  deriving Repr, DecidableEq

structure Shape where
  options : List (String × Form)
  letters : List (Char × String)
  takesWords : Bool

/-- Reads a whole number of 64 bits, with a plus sign or without. -/
def word64? (s : String) : Option Nat := (Text.natural? s.toList).filter (· < UInt64.size)

structure Given where
  values : List (String × String) := []
  words : List String := []
  /-- The option that was named last, and its value once that has been met. -/
  pending : Option (String × Option String) := none
  deriving Repr, DecidableEq

namespace Given

def has (g : Given) (option : String) : Bool := (g.values.lookup option).isSome
def text? (g : Given) (option : String) : Option String := g.values.lookup option
def number? (g : Given) (option : String) : Option Nat := (g.text? option).bind word64?

def set (g : Given) (option value : String) : Except Refusal Given :=
  if g.has option then .error (.conflict option)
  else .ok { g with values := g.values ++ [(option, value)] }

def setChecked (shape : Shape) (g : Given) (option value : String) : Except Refusal Given := do
  let g ← g.set option value
  if shape.options.lookup option = some .number && (word64? value).isNone then
    .error (.badValue option value)
  else .ok g

def resolve (shape : Shape) (g : Given) : Except Refusal Given :=
  match g.pending with
  | none => .ok g
  | some (option, none) => .error (.noValue option)
  | some (option, some v) => setChecked shape { g with pending := none } option v

end Given

/-- The name and the attached value of an option with two dashes. -/
def longOption? (arg : String) : Option (String × Option String) :=
  match arg.toList with
  | '-' :: '-' :: rest =>
    let name := rest.takeWhile (· != '=')
    some (String.ofList name, match rest.dropWhile (· != '=') with
      | [] => none
      | _ :: value => some (String.ofList value))
  | _ => none

/-- The letters behind a single dash. -/
def shortOptions? (arg : String) : Option (List Char) :=
  match arg.toList with
  | '-' :: c :: rest => some (c :: rest)
  | _ => none

inductive Continuation
  | ended
  | word (w : String) (rest : List String)
  /-- A word behind two lone dashes. -/
  | lateWord (w : String)

namespace Shape

variable (shape : Shape)

/-- Meets an option without a value of its own. -/
def meet (g : Given) (option : String) : Form → Except Refusal Given
  | .flag => do (← g.resolve shape).set option "true"
  | .help => do
    let _ ← g.resolve shape
    .error .help
  | .version => do
    let _ ← g.resolve shape
    .error .version
  | .text | .number => do .ok { (← g.resolve shape) with pending := some (option, none) }

def takesValue : Form → Bool
  | .text | .number => true
  | _ => false

def long (g : Given) (option : String) (attached : Option String) : Except Refusal Given :=
  match shape.options.lookup option, attached with
  | none, _ => .error (.unknownArgument option)
  | some form, none => shape.meet g option form
  | some form, some v =>
    if takesValue form then do (← g.resolve shape).setChecked shape option v
    else .error (.unneededValue option)

def short (g : Given) : List Char → Except Refusal Given
  | [] => .ok g
  | c :: rest =>
    match shape.letters.lookup c with
    | none => .error (.unknownArgument (String.singleton c))
    | some option => do
      short (← shape.meet g option ((shape.options.lookup option).getD .flag)) rest

def word (g : Given) (w : String) : Except Refusal Given :=
  if shape.takesWords then do
    let g ← g.resolve shape
    .ok { g with words := g.words ++ [w] }
  else .error (.unknownArgument w)

/-- Meets an argument before two lone dashes. -/
def meetArgument (g : Given) (arg : String) : Except Refusal Given :=
  match longOption? arg, shortOptions? arg, g.pending with
  | some (option, attached), _, _ => shape.long g option attached
  | none, some letters, _ => shape.short g letters
  | none, none, some (option, none) => .ok { g with pending := some (option, some arg) }
  | none, none, _ => shape.word g arg

/-- Reads arguments. Behind two lone dashes all of them are words. -/
def read (g : Given) : List String → Except Refusal Given
  | [] => g.resolve shape
  | arg :: rest =>
    if arg == "--" then do (← rest.foldlM shape.word g).resolve shape
    else do read (← shape.meetArgument g arg) rest

/-- Reads arguments up to the first word. -/
def readToWord (g : Given) : List String → Except Refusal (Given × Continuation)
  | [] => do .ok (← g.resolve shape, .ended)
  | arg :: rest =>
    if arg == "--" then do
      match rest with
      | [] => .ok (← g.resolve shape, .ended)
      | w :: _ => .ok (g, .lateWord w)
    else if (longOption? arg).isSome || (shortOptions? arg).isSome then do
      readToWord (← shape.meetArgument g arg) rest
    else .ok (g, .word arg rest)

end Shape

end Fanout.CommandLine
