import Fanout.Insight.Basic
import Fanout.Insight.Figure
import Fanout.Text.Ascii
import Fanout.Text.Line
import Fanout.Text.WordClass

/-!
# Replies with labels

* `figures` : the figures behind labels at the starts of lines, in the order of the text;
* `Item.ofLine?` : a line of a numbered list;
* `listedIssues` : the issues of the list under the heading;
* `Insight.ofLabeledReply` : all of it. The last figure under a label counts.

Blanks may stand before a label, between its words and around its colon, and a line break is a
blank. Letters match without regard to case, as Unicode folds it.
-/

namespace Fanout.Labeled
open Text

/-! ## Figures -/

inductive Label where
  | loadTimeImpact
  | databaseEfficiency
  | networkOptimization
  | potentialImprovement
  deriving Repr, DecidableEq

def Label.words : Label → List String
  | .loadTimeImpact => ["load", "time", "impact"]
  | .databaseEfficiency => ["database", "efficiency"]
  | .networkOptimization => ["network", "optimization"]
  | .potentialImprovement => ["potential", "improvement"]

def labels : List Label :=
  [.loadTimeImpact, .databaseEfficiency, .networkOptimization, .potentialImprovement]

/-- Whether a character is a letter in some case. Two letters beyond ASCII fold to one of it. -/
def folds (letter c : Char) : Bool :=
  Text.lowerChar c == letter || (letter == 's' && c == 'ſ') || (letter == 'k' && c == '\u212a')

def afterWord? : List Char → List Char → Option (List Char)
  | [], cs => some cs
  | _ :: _, [] => none
  | letter :: word, c :: cs => if folds letter c then afterWord? word cs else none

def afterWords? : List String → List Char → Option (List Char)
  | [], cs => some cs
  | [w], cs => afterWord? w.toList cs
  | w :: ws, cs =>
    (afterWord? w.toList cs).bind fun rest =>
      if (rest.takeWhile isBlank).isEmpty then none else afterWords? ws (rest.dropWhile isBlank)

/-- A number without a sign at the start of a text, with the sign that stood before it, and what
follows it. -/
def unsigned? (sign cs : List Char) : Option (List Char × List Char) :=
  let whole := cs.takeWhile isDecimalDigit
  let rest := cs.dropWhile isDecimalDigit
  if whole.isEmpty then none
  else match rest with
    | '.' :: r =>
      let places := r.takeWhile isDecimalDigit
      if places.isEmpty then some (sign ++ whole, rest)
      else some (sign ++ whole ++ '.' :: places, r.dropWhile isDecimalDigit)
    | _ => some (sign ++ whole, rest)

/-- A number at the start of a text, and what follows it. -/
def number? : List Char → Option (List Char × List Char)
  | '-' :: cs => unsigned? ['-'] cs
  | '+' :: cs => unsigned? ['+'] cs
  | cs => unsigned? [] cs

/-- A label as it was written, the number behind its colon, and what follows. -/
def labelled? (l : Label) (cs : List Char) : Option (List Char × List Char × List Char) := do
  let start := cs.dropWhile isBlank
  let tail ← afterWords? l.words start
  match tail.dropWhile isBlank with
  | ':' :: r =>
    let (spelling, rest) ← number? (r.dropWhile isBlank)
    some (start.take (start.length - tail.length), spelling, rest)
  | _ => none

/-- Whether a label is spelled with letters of ASCII. -/
def spelledPlainly (l : Label) (spelling : List Char) : Bool :=
  (Text.words spelling).map (fun w => String.ofList (Text.lowerAscii w)) == l.words

/-- The labels with their figures, read from the start of a line where `atStart` holds. -/
def figuresWith : Nat → Bool → List Char → List (Label × Float)
  | 0, _, _ => []
  | _, _, [] => []
  | fuel + 1, atStart, c :: cs =>
    let found := if atStart then
        labels.findSome? fun l => (labelled? l (c :: cs)).map fun (s, v, rest) => (l, s, v, rest)
      else none
    match found with
    | some (l, spelling, value, rest) =>
      let more := figuresWith fuel false rest
      if spelledPlainly l spelling then (l, figureOfText value) :: more else more
    | none => figuresWith fuel (c == '\n') cs

def figures (text : List Char) : List (Label × Float) := figuresWith text.length true text

def record (r : Insight) : Label × Float → Insight
  | (.loadTimeImpact, x) => { r with loadTimeImpact := x }
  | (.databaseEfficiency, x) => { r with databaseEfficiency := x }
  | (.networkOptimization, x) => { r with networkOptimization := x }
  | (.potentialImprovement, x) => { r with potentialImprovement := x }

/-! ## Issues -/

/-- A line of a numbered list: a tag in brackets, if it has one, and the rest. -/
structure Item where
  tag : Option (List Char)
  body : List Char

/-- The tag at the start of a text, and what follows it. -/
def tag? : List Char → Option (List Char × List Char)
  | '[' :: cs =>
    let word := cs.takeWhile isWordChar
    match cs.dropWhile isWordChar with
    | ']' :: rest => if word.isEmpty then none else some (word, rest)
    | _ => none
  | _ => none

/-- The item of a text that follows the number, a point or a bracket, and blanks. An item has a body,
if only of one blank. -/
def Item.ofText? (blanks cs : List Char) : Option Item :=
  let untagged :=
    if !cs.isEmpty then some ⟨none, trimEnd cs⟩
    else if blanks.length > 1 then some ⟨none, []⟩ else none
  match tag? cs with
  | none => untagged
  | some (word, rest) =>
    let body := rest.dropWhile isBlank
    if !body.isEmpty then some ⟨some word, trimEnd body⟩
    else if !rest.isEmpty then some ⟨some word, []⟩
    else untagged

def Item.ofLine? (line : List Char) : Option Item :=
  let start := line.dropWhile isBlank
  let number := start.takeWhile isDecimalDigit
  match start.dropWhile isDecimalDigit with
  | mark :: rest =>
    let blanks := rest.takeWhile isBlank
    if number.isEmpty || !(mark == '.' || mark == ')') || blanks.isEmpty then none
    else Item.ofText? blanks (rest.dropWhile isBlank)
  | [] => none

def Item.issue (i : Item) : Issue :=
  let (title, description) := match cutOnce " - ".toList i.body with
    | some (t, d) => (trim t, trim d)
    | none => (trim i.body, [])
  { severity := (i.tag.map fun t => Severity.ofLabel (String.ofList t)).getD .info
    title := String.ofList title
    description := String.ofList description }

def isHeading (line : List Char) : Bool :=
  Text.lowerAscii (dropEndWhile (· == ':') (trim line)) == "issues".toList

/-- The issues of the items up to the first line that is neither an item nor blank. -/
def items : List (List Char) → List Issue
  | [] => []
  | line :: rest =>
    if (trim line).isEmpty then items rest
    else match Item.ofLine? line with
      | some i => i.issue :: items rest
      | none => []

def listedIssues (text : List Char) : List Issue :=
  items (((lines text).dropWhile fun line => !isHeading line).drop 1)

end Fanout.Labeled

namespace Fanout

def Insight.ofLabeledReply (text : String) : Insight :=
  let figures := (Labeled.figures text.toList).foldl Labeled.record .empty
  { figures with additionalIssues := Labeled.listedIssues text.toList }

end Fanout
