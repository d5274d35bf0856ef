import Fanout.Json.Token

/-!
# Reading JSON texts

* `Partial` : what has been read so far, a stack of unfinished arrays and objects;
* `Partial.step` : one token more;
* `Json.parseRaw?` : the value of a text, every member of an object kept, no limit on nesting;
* `Json.parse?` : the value of a text with at most 127 levels of nesting in which everything is
  readable, the last value of a repeated key in its first place.

The reader is strict: no comments, no trailing commas, nothing before or after the value but blanks.
-/

namespace Fanout.Json

/-- What may come next. -/
inductive Awaits where
  | value
  | valueOrClose
  | key
  | keyOrClose
  | colon
  | commaOrClose
  | nothing

/-- An array or object whose end has not been read; its parts stand in reverse order. -/
inductive Open where
  | array (items : List Json)
  | object (members : List (String × Json)) (key : String)

structure Partial where
  awaits : Awaits
  stack : List Open
  /-- The whole value, once it has been read. -/
  whole : Option Json

structure Reading where
  /-- The largest number of open arrays and objects. -/
  maxDepth : Option Nat
  /-- Whether every scalar must be readable and keys become distinct. -/
  strict : Bool

namespace Partial

def start : Partial := ⟨.value, [], none⟩

def place (stack : List Open) (v : Json) : Partial :=
  match stack with
  | [] => ⟨.nothing, [], some v⟩
  | .array items :: rest => ⟨.commaOrClose, .array (v :: items) :: rest, none⟩
  | .object members key :: rest => ⟨.commaOrClose, .object ((key, v) :: members) key :: rest, none⟩

def push? (how : Reading) (stack : List Open) (o : Open) (awaits : Awaits) : Option Partial :=
  if how.maxDepth.all (stack.length < ·) then some ⟨awaits, o :: stack, none⟩ else none

/-- The value of an object from its members in reverse order. -/
def closeObject (how : Reading) (members : List (String × Json)) : Json :=
  .object (if how.strict then distinct members.reverse else members.reverse)

/-- Reads a token where a value may start. -/
def value? (how : Reading) (stack : List Open) : Token → Option Partial
  | .openArray => push? how stack (.array []) .valueOrClose
  | .openObject => push? how stack (.object [] "") .keyOrClose
  | .scalar .unreadable => if how.strict then none else some (place stack .unreadable)
  | .scalar v => some (place stack v)
  | _ => none

def close? (how : Reading) (stack : List Open) : Token → Option Partial
  | .closeArray => match stack with
    | .array items :: rest => some (place rest (.array items.reverse))
    | _ => none
  | .closeObject => match stack with
    | .object members _ :: rest => some (place rest (closeObject how members))
    | _ => none
  | _ => none

def key? (stack : List Open) : Token → Option Partial
  | .scalar (.string key) => match stack with
    | .object members _ :: rest => some ⟨.colon, .object members key :: rest, none⟩
    | _ => none
  | _ => none

def step (how : Reading) (p : Partial) (t : Token) : Option Partial :=
  match p.awaits with
  | .value => value? how p.stack t
  | .valueOrClose => match t with
    | .closeArray => close? how p.stack t
    | _ => value? how p.stack t
  | .key => key? p.stack t
  | .keyOrClose => match t with
    | .closeObject => close? how p.stack t
    | _ => key? p.stack t
  | .colon => match t with
    | .colon => some ⟨.value, p.stack, none⟩
    | _ => none
  | .commaOrClose => match t with
    | .comma => match p.stack with
      | .array _ :: _ => some ⟨.value, p.stack, none⟩
      | .object _ _ :: _ => some ⟨.key, p.stack, none⟩
      | [] => none
    | _ => close? how p.stack t
  | .nothing => none

/-- Reads a text of at most `fuel` characters onto what has been read. -/
def read (how : Reading) : Nat → Partial → List Char → Option Partial
  | _, p, [] => some p
  | 0, _, _ :: _ => none
  | fuel + 1, p, c :: cs =>
    if isBlank c then read how fuel p cs
    else match Token.next? c cs with
      | none => none
      | some (t, rest) => match p.step how t with
        | none => none
        | some p => read how fuel p rest

end Partial

def parseWith? (how : Reading) (cs : List Char) : Option Json :=
  (Partial.read how cs.length .start cs).bind (·.whole)

/-- The value of a text with all members of its objects. -/
def parseRaw? (text : String) : Option Json := parseWith? ⟨none, false⟩ text.toList

/-- The value of a text, with distinct keys and bounded nesting. -/
def parse? (text : String) : Option Json := parseWith? ⟨some 127, true⟩ text.toList

end Fanout.Json
