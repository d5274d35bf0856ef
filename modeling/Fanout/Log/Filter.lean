import Fanout.Text.Ascii
import Fanout.Text.Blank
import Fanout.Text.WordClass

/-!
# Log filters

* `Level` : how weighty an event is;
* `Directive` : lets events up to a level pass, perhaps only those of a target, within a span or
  with a field;
* `Filter.ofText?` : the directives in a text, the most specific ones first;
* `Filter.text` : a filter as text;
* `Filter.enables` : the first directive that concerns an event decides.
-/

namespace Fanout.Log

inductive Level
  | error
  | warn
  | info
  | debug
  | trace
  deriving Repr, DecidableEq

namespace Level

/-- Weighty events come first. -/
def rank : Level → Nat
  | .error => 1
  | .warn => 2
  | .info => 3
  | .debug => 4
  | .trace => 5

def name : Level → String
  | .error => "error"
  | .warn => "warn"
  | .info => "info"
  | .debug => "debug"
  | .trace => "trace"

def label : Level → String
  | .error => "ERROR"
  | .warn => "WARN"
  | .info => "INFO"
  | .debug => "DEBUG"
  | .trace => "TRACE"

def all : List Level := [.error, .warn, .info, .debug, .trace]

end Level

/-- The least weighty level that passes, if any level does. -/
abbrev Threshold := Option Level

namespace Threshold

def name (t : Threshold) : String := t.elim "off" Level.name

def rank (t : Threshold) : Nat := t.elim 0 Level.rank

def all : List Threshold := none :: Level.all.map some

def ofRank? (n : Nat) : Option Threshold := all.find? fun t => rank t == n

/-- A threshold by its number or by its name in any case. -/
def ofText? (cs : List Char) : Option Threshold :=
  match Text.natural? cs with
  | some n => ofRank? n
  | none => all.find? fun t => (name t).toList == Text.lowerAscii cs

end Threshold

structure Directive where
  target : Option String := none
  span : Option String := none
  /-- The name of a field, perhaps with a value. -/
  field : Option String := none
  threshold : Threshold := some .trace
  deriving Repr, DecidableEq

namespace Directive

/-! ## Reading -/

/-- Whether a directive may start with a character. -/
def startsWith (c : Char) : Bool := c == '-' || c == ':' || Text.isWordChar c

/-- What stands behind the target or the brackets of a directive: an equals sign and a threshold, or
nothing. -/
def readThreshold? (d : Directive) : List Char → Option Directive
  | '=' :: [] => some d
  | '=' :: rest => (Threshold.ofText? rest).map fun t => { d with threshold := t }
  | rest => if rest.all Text.isBlank then some d else none

def nonempty? (cs : List Char) : Option String := if cs.isEmpty then none else some (String.ofList cs)

/-- What stands behind the opening bracket of a directive: a span, perhaps with a field. -/
def readSpan? (d : Directive) (cs : List Char) : Option Directive :=
  let inside := cs.takeWhile fun c => c != ']' && c != '{'
  match cs.dropWhile (fun c => c != ']' && c != '{') with
  | ']' :: rest => readThreshold? { d with span := some (String.ofList inside) } rest
  | '{' :: rest =>
    let field := rest.takeWhile (· != '}')
    match nonempty? field, rest.dropWhile (· != '}') with
    | some f, '}' :: ']' :: rest =>
      readThreshold? { d with span := nonempty? inside, field := some f } rest
    | _, _ => none
  | _ => none

/-- A directive without brackets or an equals sign names a threshold or a target. -/
def readName (cs : List Char) : Directive :=
  match Threshold.ofText? cs with
  | some t => { threshold := t }
  | none => { target := some (String.ofList cs) }

def endsTarget (c : Char) : Bool := c == '=' || c == '['

def readTarget? (cs : List Char) : Option Directive :=
  let named : Directive := { target := some (String.ofList (cs.takeWhile fun c => !endsTarget c)) }
  match cs.dropWhile fun c => !endsTarget c with
  | [] => some (readName cs)
  | '[' :: rest => readSpan? named rest
  | rest => readThreshold? named rest

/-- Reads a directive. Blanks belong to its names; a directive with brackets or an equals sign must
not start with one. -/
def ofText? (cs : List Char) : Option Directive :=
  match cs, Text.trimStart cs with
  | '[' :: rest, _ => readSpan? {} rest
  | c :: _, first :: _ =>
    if !startsWith first || (c != first && cs.any endsTarget) then none else readTarget? cs
  | _, _ => none

/-! ## Writing -/

/-- What stands before the equals sign. -/
def subject (d : Directive) : String :=
  d.target.getD "" ++
    if d.span.isNone && d.field.isNone then ""
    else "[" ++ d.span.getD "" ++ d.field.elim "" (fun f => "\x7b" ++ f ++ "\x7d") ++ "]"

def text (d : Directive) : String :=
  if d.target.isNone && d.span.isNone && d.field.isNone then Threshold.name d.threshold
  else d.subject ++ "=" ++ Threshold.name d.threshold

/-! ## Order -/

def sizeOfText (s : Option String) : Nat := s.elim 0 fun s => s.utf8ByteSize + 1

/-- How specific a directive is, and then the texts in it. -/
def key (d : Directive) : List Nat × List (List Char) :=
  ([sizeOfText d.target, if d.span.isSome then 1 else 0, if d.field.isSome then 1 else 0],
    [d.target.elim [] String.toList, d.span.elim [] String.toList, d.field.elim [] String.toList])

def before (a b : Directive) : Bool :=
  decide ((b.key).1 < (a.key).1) || ((a.key).1 == (b.key).1 && decide ((b.key).2 < (a.key).2))

/-- Puts a directive in its place. It replaces one with the same subject. -/
def insert (d : Directive) : List Directive → List Directive
  | [] => [d]
  | e :: es =>
    if d.before e then d :: e :: es
    else if e.before d then e :: insert d es
    else d :: es

def sort (ds : List Directive) : List Directive := ds.foldl (fun sorted d => insert d sorted) []

def isDynamic (d : Directive) : Bool := d.span.isSome || d.field.isSome

/-- Whether a directive decides about events: those within spans do not, nor do those that ask for
the value of a field. -/
def isStatic (d : Directive) : Bool := d.span.isNone && d.field.all fun f => !f.toList.contains '='

/-! ## Use -/

/-- Whether a directive concerns an event of a target with some fields. -/
def concerns (target : String) (fields : List String) (d : Directive) : Bool :=
  d.target.all (fun t => t.toList.isPrefixOf target.toList) && d.field.all fields.contains

end Directive

structure Filter where
  statics : List Directive
  dynamics : List Directive
  deriving Repr, DecidableEq

namespace Filter

def ofDirectives (ds : List Directive) : Filter :=
  let dynamics := ds.filter Directive.isDynamic
  let plain := ds.filter fun d => !d.isDynamic
  ⟨Directive.sort (plain ++ dynamics.filter Directive.isStatic), Directive.sort dynamics⟩

/-- The parts of a text between commas, without the empty ones. -/
def pieces (cs : List Char) : List (List Char) :=
  (Text.splitAt (· == ',') cs).filter fun p => !p.isEmpty

def ofText? (s : String) : Option Filter :=
  ((pieces s.toList).mapM Directive.ofText?).map ofDirectives

def text (f : Filter) : String :=
  ",".intercalate ((f.statics ++ f.dynamics).map Directive.text)

def enables (f : Filter) (level : Level) (target : String) (fields : List String) : Bool :=
  match f.statics.find? (Directive.concerns target fields) with
  | some d => level.rank ≤ Threshold.rank d.threshold
  | none => false

/-- The filter in force: the first variable that holds one, else the default. -/
def inForce (settings : List (Option String)) (verbose : Bool) : Filter :=
  (settings.findSome? fun v => v.bind ofText?).getD
    ⟨[{ threshold := some (if verbose then .debug else .warn) }], []⟩

end Filter

end Fanout.Log
