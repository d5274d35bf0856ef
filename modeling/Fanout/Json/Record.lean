import Fanout.Json.Basic

/-!
# Records in JSON

A record is written as an object, and may be read from an object or from an array of its fields in
order. Members with other keys are passed over; a field that is given twice, under one key or under
two of its keys, cannot be read.

* `record?` : the values of the fields of a record, where a field may be absent;
* `Field` : how a field that may be absent is read.
-/

namespace Fanout.Json

/-- The value given under one of some keys; none if there are two such values. -/
def single? (keys : List String) (members : List (String × Json)) : Option (Option Json) :=
  match members.filter fun m => keys.contains m.1 with
  | [] => some none
  | [m] => some (some m.2)
  | _ => none

/-- The values of fields, where each field has a list of keys. -/
def record? (fields : List (List String)) : Json → Option (List (Option Json))
  | .object members => fields.mapM fun keys => single? keys members
  | .array items =>
    if items.length ≤ fields.length then
      some (items.map some ++ List.replicate (fields.length - items.length) none)
    else none
  | _ => none

def string? : Json → Option String
  | .string s => some s
  | _ => none

/-- A whole number of 32 bits. -/
def word? : Json → Option UInt32
  | .number (.nat n) => if n < UInt32.size then some (UInt32.ofNat n) else none
  | _ => none

def float? : Json → Option Float
  | .number n => some n.toFloat
  | _ => none

def bool? : Json → Option Bool
  | .bool b => some b
  | _ => none

def list? {α : Type} (read : Json → Option α) : Json → Option (List α)
  | .array items => items.mapM read
  | _ => none

/-- A field that must be given. -/
def required? {α : Type} (read : Json → Option α) (v : Option Json) : Option α := v.bind read

/-- A field that has a value of its own where it is absent. -/
def defaulted? {α : Type} (read : Json → Option α) (absent : α) : Option Json → Option α
  | none => some absent
  | some v => read v

/-- A field that may be absent or null. -/
def optional? {α : Type} (read : Json → Option α) : Option Json → Option (Option α)
  | none | some .null => some none
  | some v => (read v).map some

def members (all : List (String × Option Json)) : Json :=
  .object (all.filterMap fun (k, v) => v.map (k, ·))

end Fanout.Json
