import Fanout.Json.Cursor
import Fanout.Text.Quoted

/-!
# Values of a known shape

* `Shape α` : how a value of type `α` is read from a text;
* `Shape.text`, `Shape.list`, `Shape.optional`, `Shape.record1`, `Shape.record2` : the shapes;
* `Shape.ofText` : the value of a whole text, or the first fault in it.

A record is an object, or a list of its fields in order. Members with other keys are passed over. A
field that is missing or that stands twice is a fault of the object and lies where the object ends
or where the second value would begin.
-/

namespace Fanout.Json

abbrev Shape (α : Type) := Cursor → Except Fault (α × Cursor)

structure Field (α : Type) where
  key : String
  shape : Shape α
  /-- The value where an object has no such member; without one, the field must be given. -/
  absent : Option α := none
  /-- The value where a list ends before the field. -/
  beyond : Option α := none

def Number.found : Number → String
  | .nat n => s!"integer \x60{n}\x60"
  | .neg n => s!"integer \x60-{n}\x60"
  | .float x => s!"floating point \x60{jsonText x}\x60"

namespace Shape

/-- A fault at a value of the wrong kind. Lists and objects are not entered, scalars are read. -/
def wrongKind {α : Type} (wanted : String) (c : Cursor) : Except Fault α :=
  match c.peek? with
  | some 'n' => do (← c.advance.readName ['u', 'l', 'l']).fault (.wrongKind "null" wanted)
  | some 't' => do
    (← c.advance.readName ['r', 'u', 'e']).fault (.wrongKind "boolean \x60true\x60" wanted)
  | some 'f' => do
    (← c.advance.readName ['a', 'l', 's', 'e']).fault (.wrongKind "boolean \x60false\x60" wanted)
  | some '"' => do
    let (s, c) ← c.advance.readText
    c.fault (.wrongKind ("string " ++ Text.quoted s) wanted)
  | some '[' => c.fault (.wrongKind "sequence" wanted)
  | some '{' => c.fault (.wrongKind "map" wanted)
  | some b =>
    if isDigit b || b == '-' then do
      let (n, c) ← c.readNumber
      c.fault (.wrongKind n.found wanted)
    else c.faultAhead .noValue
  | none => c.faultAhead .endInValue

def text : Shape String := fun c =>
  let c := c.skipBlank
  match c.peek? with
  | some '"' => c.advance.readText
  | _ => wrongKind "a string" c

def optional {α : Type} (value : Shape α) : Shape (Option α) := fun c =>
  let c := c.skipBlank
  match c.peek? with
  | some 'n' => do .ok (none, ← c.advance.readName ['u', 'l', 'l'])
  | _ => do
    let (a, c) ← value c
    .ok (some a, c)

/-! ## Lists -/

/-- Moves to the next item of a list, if there is one. -/
def nextItem? (first : Bool) (c : Cursor) : Except Fault (Option Cursor × Cursor) :=
  let c := c.skipBlank
  match c.peek? with
  | none => c.faultAhead .endInList
  | some ']' => .ok (none, c)
  | some b =>
    if first then .ok (some c, c)
    else if b == ',' then
      let c := c.advance.skipBlank
      match c.peek? with
      | none => c.faultAhead .endInValue
      | some ']' => c.faultAhead .trailingComma
      | some _ => .ok (some c, c)
    else c.faultAhead .noListSeparator

def itemsFrom {α : Type} (item : Shape α) : Nat → Bool → Cursor → Except Fault (List α × Cursor)
  | 0, _, c => c.fault .endInList
  | fuel + 1, first, c => do
    match ← nextItem? first c with
    | (none, c) => .ok ([], c)
    | (some c, _) =>
      let (a, c) ← item c
      let (as, c) ← itemsFrom item fuel false c
      .ok (a :: as, c)

def passListEnd (c : Cursor) : Except Fault Cursor :=
  let c := c.skipBlank
  match c.peek? with
  | none => c.faultAhead .endInList
  | some ']' => .ok c.advance
  | some ',' =>
    let c := c.advance.skipBlank
    c.faultAhead (if c.peek? == some ']' then .trailingComma else .trailingText)
  | some _ => c.faultAhead .trailingText

def list {α : Type} (item : Shape α) : Shape (List α) := fun c =>
  let c := c.skipBlank
  match c.peek? with
  | some '[' => do
    let inside := c.advance
    let (as, c) ← itemsFrom item (inside.rest.length + 1) true inside
    .ok (as, ← passListEnd c)
  | _ => wrongKind "a sequence" c

/-! ## Records -/

/-- What a member of an object is to a record. -/
inductive Member (σ : Type)
  | unknown
  | repeated
  | value (read : Shape σ)

/-- Moves behind the quote of the next key of an object, if there is one. -/
def nextKey? (first : Bool) (c : Cursor) : Except Fault (Option Cursor × Cursor) :=
  let c := c.skipBlank
  match c.peek? with
  | none => c.faultAhead .endInObject
  | some '}' => .ok (none, c)
  | some b =>
    if first then
      if b == '"' then .ok (some c.advance, c) else c.faultAhead .keyIsNoText
    else if b == ',' then
      let c := c.advance.skipBlank
      match c.peek? with
      | none => c.faultAhead .endInValue
      | some '"' => .ok (some c.advance, c)
      | some '}' => c.faultAhead .trailingComma
      | some _ => c.faultAhead .keyIsNoText
    else c.faultAhead .noObjectSeparator

/-- Reads the members of an object onto what has been read of a record. -/
def membersFrom {σ : Type} (member : String → σ → Member σ) :
    Nat → Bool → σ → Cursor → Except Fault (σ × Cursor)
  | 0, _, _, c => c.fault .endInObject
  | fuel + 1, first, s, c => do
    match ← nextKey? first c with
    | (none, c) => .ok (s, c)
    | (some c, _) =>
      let (key, c) ← c.readText
      match member key s with
      | .repeated => c.skipBlank.fault (.repeated key)
      | .unknown => membersFrom member fuel false s (← (← c.passColon).skipValue)
      | .value read =>
        let (s, c) ← read (← c.passColon)
        membersFrom member fuel false s c

/-- Reads an object from its opening brace to its end, where `finish` tells which key is missing. -/
def object {σ α : Type} (member : String → σ → Member σ) (start : σ) (finish : σ → Except String α) :
    Shape α := fun c => do
  let inside := c.advance
  let (s, c) ← membersFrom member (inside.rest.length + 1) true start inside
  match finish s with
  | .ok a => .ok (a, c.advance)
  | .error key => c.advance.fault (.missing key)

def given {α : Type} (f : Field α) (v : Option α) : Except String α :=
  match v.or f.absent with
  | some a => .ok a
  | none => .error f.key

def fieldAt {α : Type} (wanted : String) (position : Nat) (f : Field α) (c : Cursor) :
    Except Fault (α × Cursor) := do
  match ← nextItem? (position == 0) c with
  | (some c, _) => f.shape c
  | (none, c) =>
    match f.beyond with
    | some a => .ok (a, c)
    | none => c.advance.fault (.wrongLength position wanted)

def place {α σ : Type} (f : Field α) (old : Option α) (put : α → σ) : Member σ :=
  match old with
  | some _ => .repeated
  | none => .value fun c => (f.shape c).map fun (a, c) => (put a, c)

def record1 {α : Type} (name : String) (f : Field α) : Shape α := fun c =>
  let c := c.skipBlank
  match c.peek? with
  | some '{' =>
    object (fun key s => if key == f.key then place f s some else .unknown) none (given f) c
  | some '[' => do
    let (a, c) ← fieldAt s!"struct {name} with 1 element" 0 f c.advance
    .ok (a, ← passListEnd c)
  | _ => wrongKind ("struct " ++ name) c

def record2 {α β : Type} (name : String) (f : Field α) (g : Field β) : Shape (α × β) := fun c =>
  let c := c.skipBlank
  match c.peek? with
  | some '{' =>
    object
      (fun key (s : Option α × Option β) =>
        if key == f.key then place f s.1 fun a => (some a, s.2)
        else if key == g.key then place g s.2 fun b => (s.1, some b)
        else .unknown)
      (none, none)
      (fun s => do .ok (← given f s.1, ← given g s.2)) c
  | some '[' => do
    let wanted := s!"struct {name} with 2 elements"
    let (a, c) ← fieldAt wanted 0 f c.advance
    let (b, c) ← fieldAt wanted 1 g c
    .ok ((a, b), ← passListEnd c)
  | _ => wrongKind ("struct " ++ name) c

/-- The value of a whole text. -/
def ofText {α : Type} (shape : Shape α) (text : String) : Except Fault α := do
  let (a, c) ← shape (Cursor.start text)
  let c := c.skipBlank
  if c.peek?.isSome then c.faultAhead .trailingText else .ok a

end Shape
end Fanout.Json
