/-!
# JSON values

* `Json.Number` : integers keep their value, every other spelling is a double;
* `Json` : values, where an object keeps its members in order;
* `Json.get?` : the last member with a key; `Json.insert` : sets a member in its first place;
* `Json.distinct` : objects in which every key stands once, the last value in the first place.
-/

namespace Fanout

inductive Json.Number where
  /-- An integer below `2 ^ 64`. -/
  | nat (n : Nat)
  /-- The negative integer `-n`, not below `-2 ^ 63`. -/
  | neg (n : Nat)
  | float (x : Float)

/-- The double nearest to a number. -/
def Json.Number.toFloat : Json.Number → Float
  | .nat n => Float.ofScientific n false 0
  | .neg n => -Float.ofScientific n false 0
  | .float x => x

inductive Json where
  | null
  | bool (b : Bool)
  | number (n : Json.Number)
  | string (s : String)
  | array (items : List Json)
  | object (members : List (String × Json))
  /-- A scalar that may be skipped but has no value: a number beyond the doubles, a string with
  half of a surrogate pair. -/
  | unreadable

namespace Json

instance : Inhabited Json := ⟨.null⟩

/-- A finite double is a number, any other double is null. -/
def ofFloat (x : Float) : Json := if x.isFinite then .number (.float x) else .null

def ofNat (n : Nat) : Json := .number (.nat n)

def ofStrings (xs : List String) : Json := .array (xs.map .string)

/-- Sets the member of a key: in the place of the first member with it, otherwise at the end. -/
def insert (members : List (String × Json)) (key : String) (value : Json) : List (String × Json) :=
  match members with
  | [] => [(key, value)]
  | (k, v) :: rest => if k = key then (k, value) :: rest else (k, v) :: insert rest key value

/-- The value of a key among members with distinct keys. -/
def lookup (key : String) (members : List (String × Json)) : Option Json :=
  (members.find? (·.1 = key)).map (·.2)

def get? (v : Json) (key : String) : Option Json :=
  match v with
  | .object members => lookup key members
  | _ => none

/-- The members under which no key stands twice, the last value of a key in its first place. -/
def distinct (members : List (String × Json)) : List (String × Json) :=
  members.foldl (fun seen (k, v) => insert seen k v) []

end Json
end Fanout
