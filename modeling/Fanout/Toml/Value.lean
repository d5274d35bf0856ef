/-!
# TOML values

* `Value` : what a key stands for. A date or a time is kept as its text;
* `Entry` : a value that is still growing. How a table came about decides who may extend it;
* `Entry.descend?` : changes a table that a path of keys leads to, making tables on the way.
-/

namespace Fanout.Toml

inductive Value
  | string (s : String)
  | integer (n : Int)
  | float (text : String)
  | boolean (b : Bool)
  | moment (text : String)
  | array (items : List Value)
  | table (fields : List (String × Value))
  deriving Inhabited

inductive Origin
  /-- By a header of its own. -/
  | header
  /-- On the way to the table of a header. -/
  | implied
  /-- On the way along a dotted key. -/
  | dotted
  deriving DecidableEq

inductive Entry
  | value (v : Value)
  | table (origin : Origin) (fields : List (String × Entry))
  /-- The tables of headers in double brackets, the last one first. -/
  | tables (items : List (List (String × Entry)))

abbrev Fields := List (String × Entry)

def replace (key : String) (e : Entry) (fields : Fields) : Fields :=
  fields.map fun f => if f.1 == key then (key, e) else f

mutual

def Entry.freeze : Entry → Value
  | .value v => v
  | .table _ fields => .table (freezeFields fields)
  | .tables items => .array (freezeTables items).reverse

def freezeFields : List (String × Entry) → List (String × Value)
  | [] => []
  | (k, e) :: rest => (k, e.freeze) :: freezeFields rest

def freezeTables : List (List (String × Entry)) → List Value
  | [] => []
  | t :: rest => .table (freezeFields t) :: freezeTables rest

end

/-- Changes the table that a path leads to from a table of some origin. A dotted key may not go
through a table that has a header; nothing goes through a value. -/
def descend? (along : Origin) (f : Origin → Fields → Option Fields) :
    List String → Origin → Fields → Option Fields
  | [], origin, fields => f origin fields
  | key :: path, _, fields =>
    match fields.lookup key with
    | none => do
      let child ← descend? along f path along []
      some (fields ++ [(key, .table along child)])
    | some (.table origin child) =>
      if along = .dotted && origin = .header then none
      else do some (replace key (.table origin (← descend? along f path origin child)) fields)
    | some (.tables (last :: rest)) => do
      some (replace key (.tables ((← descend? along f path .header last) :: rest)) fields)
    | some _ => none

/-- Adds a value under a dotted key. It goes into a table of dotted keys, or right here. -/
def addValue? (path : List String) (key : String) (v : Value) (fields : Fields) : Option Fields :=
  descend? .dotted (fun origin fields =>
    if (origin = .dotted) = path.isEmpty || (fields.lookup key).isSome then none
    else some (fields ++ [(key, .value v)])) path .header fields

def openTable? (path : List String) (key : String) (fields : Fields) : Option Fields :=
  descend? .implied (fun _ fields =>
    match fields.lookup key with
    | none => some (fields ++ [(key, .table .header [])])
    | some (.table .implied child) => some (replace key (.table .header child) fields)
    | some _ => none) path .header fields

/-- Opens one more table of a header in double brackets. -/
def openItem? (path : List String) (key : String) (fields : Fields) : Option Fields :=
  descend? .implied (fun _ fields =>
    match fields.lookup key with
    | none => some (fields ++ [(key, .tables [[]])])
    | some (.tables items) => some (replace key (.tables ([] :: items)) fields)
    | some _ => none) path .header fields

end Fanout.Toml
