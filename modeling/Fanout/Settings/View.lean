import Fanout.Toml.Document
import Fanout.Yaml.Node

/-!
# Values of configuration files

* `View` : what a value of a configuration file may be read as, whatever the format of the file;
* `tomlView`, `yamlView` : the values of the two formats;
* `View.record?` : the fields of a record, given by name or in order.

In YAML a plain scalar is whatever is asked for that it can be. In TOML a value is one thing only.
-/

namespace Fanout

structure View (α : Type) where
  /-- The value, unless it stands for no value. -/
  given? : α → Option (Option α)
  text? : α → Option String
  flag? : α → Option Bool
  /-- A whole number of 64 bits without a sign. -/
  count? : α → Option Nat
  /-- The name of one of several choices. -/
  choice? : α → Option String
  items? : α → Option (List α)
  members? : α → Option (List (String × α))
  /-- Whether a record may be given by more values in order than it has fields. -/
  surplus : Bool

namespace View

variable {α : Type} (view : View α)

/-- The value of a field, unless it is absent; a value cannot be given twice. -/
def field? (name : String) (members : List (String × α)) : Option (Option α) :=
  match members.filter fun m => m.1 == name with
  | [] => some none
  | [m] => view.given? m.2
  | _ => none

/-- The values of the fields of a record. If they are given in order, the first `needed` of them
have to be there. -/
def record? (needed : Nat) (names : List String) (v : α) : Option (List (Option α)) :=
  match view.members? v with
  | some members => names.mapM fun n => view.field? n members
  | none => do
    let items ← view.items? v
    if items.length < needed || (!view.surplus && names.length < items.length) then none
    else
      let given ← (items.take names.length).mapM view.given?
      some (given ++ List.replicate (names.length - items.length) none)

def texts? (v : α) : Option (List String) := do (← view.items? v).mapM view.text?

end View

/-- A field that may be absent. -/
def maybe? {α β : Type} (read : α → Option β) : Option α → Option (Option β)
  | none => some none
  | some a => (read a).map some

/-! ## TOML -/

namespace Toml

def textOf? : Value → Option String
  | .string s => some s
  | _ => none

def flagOf? : Value → Option Bool
  | .boolean b => some b
  | _ => none

def countOf? : Value → Option Nat
  | .integer n => if 0 ≤ n && n < UInt64.size then some n.toNat else none
  | _ => none

/-- A choice is given as a string, or as the key of an empty value. -/
def choiceOf? : Value → Option String
  | .string s => some s
  | .table [(s, .table [])] => some s
  | .table [(s, .array [])] => some s
  | _ => none

def itemsOf? : Value → Option (List Value)
  | .array items => some items
  | _ => none

/-- A date counts as a record with a single field of an unusual name. -/
def membersOf? : Value → Option (List (String × Value))
  | .table fields => some fields
  | .moment text => some [("$__toml_private_datetime", .string text)]
  | _ => none

def view : View Value where
  given? v := some (some v)
  text? := textOf?
  flag? := flagOf?
  count? := countOf?
  choice? := choiceOf?
  items? := itemsOf?
  members? := membersOf?
  surplus := true

end Toml

/-! ## YAML -/

namespace Yaml

def nullTag : String := "tag:yaml.org,2002:null"
def flagTag : String := "tag:yaml.org,2002:bool"
def countTag : String := "tag:yaml.org,2002:int"

def isNull (s : String) : Bool := ["null", "Null", "NULL", "~"].contains s

/-- Plain scalars stand for nothing if they are empty or a word for it, unless a tag says
otherwise. -/
def givenOf? (v : Node) : Option (Option Node) :=
  match v with
  | .scalar text .plain none => some (if text.isEmpty || isNull text then none else some v)
  | .scalar text .plain (some tag) =>
    if tag == nullTag then (if isNull text then some none else none) else some (some v)
  | v => some (some v)

def textOf? : Node → Option String
  | .scalar text _ _ => some text
  | _ => none

/-- The text of a scalar that may be something else than text. -/
def wordOf? (tag : String) : Node → Option String
  | .scalar text .plain _ => some text
  | .scalar text .literal (some t) => if t == tag then some text else none
  | _ => none

def flagOf? (v : Node) : Option Bool := do
  let text ← wordOf? flagTag v
  if ["true", "True", "TRUE"].contains text then some true
  else if ["false", "False", "FALSE"].contains text then some false
  else none

def digitsOf? (base : Nat) (cs : List Char) : Option Nat :=
  if cs.isEmpty then none
  else cs.foldlM (fun n c => ((Text.hexValue? c).filter (· < base)).map (base * n + ·)) 0

/-- Reads a number without a sign: decimal and without leading zeros, or in another base. -/
def naturalOf? (cs : List Char) : Option Nat :=
  let body := if cs.head? = some '+' then cs.drop 1 else cs
  let small (n : Option Nat) : Option Nat := n.filter (· < UInt64.size)
  let decimal : Option Nat :=
    if body.head? = some '+' || (1 < body.length && body.head? = some '0') then none
    else small (digitsOf? 10 body)
  match body with
  | '0' :: 'x' :: rest => small (digitsOf? 16 rest)
  | '0' :: 'o' :: rest => small (digitsOf? 8 rest)
  | '0' :: 'b' :: rest => small (digitsOf? 2 rest)
  | _ => decimal

def countOf? (v : Node) : Option Nat := do naturalOf? (← wordOf? countTag v).toList

/-- A choice is given as a scalar, or as the tag of nothing. -/
def choiceOf? : Node → Option String
  | .scalar text style (some tag) =>
    match tag.toList with
    | '!' :: c :: rest =>
      if style = .plain && (text.isEmpty || isNull text) then some (String.ofList (c :: rest)) else none
    | _ => some text
  | .scalar text _ none => some text
  | _ => none

def itemsOf? : Node → Option (List Node)
  | .sequence items => some items
  | _ => none

/-- The keys of a mapping have to be scalars. Nothing at all is a mapping without pairs. -/
def membersOf? (d : Document) : Node → Option (List (String × Node))
  | .mapping pairs => pairs.mapM fun (k, v) => do some (← textOf? (d.resolve k), v)
  | .scalar "" .plain _ => some []
  | _ => none

/-- The values of a document, references followed. -/
def view (d : Document) : View Node where
  given? v := givenOf? (d.resolve v)
  text? v := textOf? (d.resolve v)
  flag? v := flagOf? (d.resolve v)
  count? v := countOf? (d.resolve v)
  choice? v := choiceOf? (d.resolve v)
  items? v := itemsOf? (d.resolve v)
  members? v := membersOf? d (d.resolve v)
  surplus := false

end Yaml

end Fanout
