import Fanout.Toml.Scalar

/-!
# TOML documents

* `value?` : reads a value;
* `document?` : the table of a whole text.
-/

namespace Fanout.Toml

def passSpaces (cs : List Char) : List Char := cs.dropWhile isSpace

/-- Passes a comment, if one stands here. -/
def passComment? : List Char → Option (List Char)
  | '#' :: cs =>
    let rest := cs.dropWhile isTextChar
    if rest.isEmpty || (newline? rest).isSome then some rest else none
  | cs => some cs

/-- Passes blanks, comments and line breaks. -/
def passLines? : Nat → List Char → Option (List Char)
  | 0, cs => some cs
  | fuel + 1, cs => do
    let cs ← passComment? (passSpaces cs)
    match newline? cs with
    | some rest => passLines? fuel rest
    | none => some cs

def passAll? (cs : List Char) : Option (List Char) := passLines? (cs.length + 1) cs

/-! ## Keys -/

def isBare (c : Char) : Bool :=
  isDigit c || ('a' ≤ c && c ≤ 'z') || ('A' ≤ c && c ≤ 'Z') || c == '_' || c == '-'

def simpleKey? (cs : List Char) : Option (String × List Char) :=
  match cs with
  | '"' :: rest => lineString? '"' (rest.length + 1) [] rest
  | '\'' :: rest => lineString? '\'' (rest.length + 1) [] rest
  | _ =>
    let word := cs.takeWhile isBare
    if word.isEmpty then none else some (String.ofList word, cs.dropWhile isBare)

/-- Reads a key with its dots and the blanks behind it: the path to it, and its last part. -/
def key? : Nat → List String → List Char → Option (List String × String × List Char)
  | 0, _, _ => none
  | fuel + 1, path, cs => do
    let (k, rest) ← simpleKey? (passSpaces cs)
    match passSpaces rest with
    | '.' :: rest => key? fuel (k :: path) rest
    | rest => some (path.reverse, k, rest)

def wholeKey? (cs : List Char) : Option (List String × String × List Char) :=
  key? (cs.length + 1) [] cs

/-! ## Values -/

/-- Arrays and tables within one line nest no deeper. -/
def maxDepth : Nat := 80

mutual

/-- Reads a value within `depth` open brackets. -/
def value? (fuel depth : Nat) (cs : List Char) : Option (Value × List Char) :=
  match fuel with
  | 0 => none
  | fuel + 1 =>
    match cs with
    | '"' :: _ => (string? '"' cs).map fun (s, rest) => (.string s, rest)
    | '\'' :: _ => (string? '\'' cs).map fun (s, rest) => (.string s, rest)
    | '[' :: rest => if depth < maxDepth then items? fuel (depth + 1) [] rest else none
    | '{' :: rest => if depth < maxDepth then fields? fuel (depth + 1) [] rest else none
    | _ => atom? cs

/-- Reads the items of an array behind its bracket or a comma. -/
def items? (fuel depth : Nat) (out : List Value) (cs : List Char) : Option (Value × List Char) :=
  match fuel with
  | 0 => none
  | fuel + 1 => do
    match ← passAll? cs with
    | ']' :: rest => some (.array out.reverse, rest)
    | cs =>
      let (v, rest) ← value? fuel depth cs
      match ← passAll? rest with
      | ',' :: rest => items? fuel depth (v :: out) rest
      | ']' :: rest => some (.array (v :: out).reverse, rest)
      | _ => none

/-- Reads the fields of a table behind its brace or a comma. -/
def fields? (fuel depth : Nat) (out : Fields) (cs : List Char) :
    Option (Value × List Char) :=
  match fuel with
  | 0 => none
  | fuel + 1 => do
    match ← passAll? cs with
    | '}' :: rest => some (.table (freezeFields out), rest)
    | cs =>
      let (path, k, rest) ← wholeKey? cs
      let (v, rest) ← value? fuel depth (passSpaces (← expect? '=' rest))
      let out ← addValue? path k v out
      match ← passAll? rest with
      | ',' :: rest => fields? fuel depth out rest
      | '}' :: rest => some (.table (freezeFields out), rest)
      | _ => none

end

/-! ## Documents -/

/-- A document read so far, and the table that the last header opened. -/
structure Partial where
  fields : Fields
  current : List String

/-- Adds a value to the table of the last header. -/
def Partial.add? (p : Partial) (path : List String) (k : String) (v : Value) : Option Partial := do
  let fields ← descend? .implied (fun _ fields => addValue? path k v fields) p.current .header p.fields
  some { p with fields }

def endLine? (cs : List Char) : Option (List Char) := do
  let cs ← passComment? (passSpaces cs)
  if cs.isEmpty then some [] else newline? cs

/-- Reads a header behind its brackets. -/
def header? (double : Bool) (p : Partial) (cs : List Char) : Option (Partial × List Char) := do
  let (path, k, rest) ← wholeKey? cs
  let rest ← expect? ']' rest
  let rest ← if double then expect? ']' rest else some rest
  let fields ← if double then openItem? path k p.fields else openTable? path k p.fields
  some (⟨fields, path ++ [k]⟩, rest)

def line? (p : Partial) (cs : List Char) : Option (Partial × List Char) :=
  match cs with
  | '[' :: '[' :: rest => header? true p rest
  | '[' :: rest => header? false p rest
  | _ => do
    let (path, k, rest) ← wholeKey? cs
    let (v, rest) ← value? (cs.length + 1) 0 (passSpaces (← expect? '=' rest))
    some (← p.add? path k v, rest)

def lines? : Nat → Partial → List Char → Option Partial
  | 0, _, _ => none
  | fuel + 1, p, cs => do
    let cs ← passAll? cs
    if cs.isEmpty then some p
    else
      let (p, rest) ← line? p cs
      lines? fuel p (← endLine? rest)

def document? (text : List Char) : Option Value := do
  let cs := if text.head? = some '\uFEFF' then text.drop 1 else text
  let p ← lines? (cs.length + 1) ⟨[], []⟩ cs
  some (.table (freezeFields p.fields))

end Fanout.Toml
