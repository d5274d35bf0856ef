import Fanout.Yaml.Token

/-!
# YAML documents

* `Node` : scalars, sequences and mappings, and references to nodes with an anchor;
* `Document` : a node with the nodes that are referred to;
* `document?` : the document of a text that holds one alone.
-/

namespace Fanout.Yaml

inductive Node
  | scalar (text : String) (style : Style) (tag : Option String)
  | sequence (items : List Node)
  | mapping (pairs : List (Node × Node))
  | reference (anchor : Nat)

def Node.absent : Node := .scalar "" .plain none

structure Document where
  root : Node
  anchored : List (Nat × Node)

/-- The node behind a reference. -/
def Document.resolve (d : Document) : Node → Node
  | .reference n => (d.anchored.lookup n).getD .absent
  | n => n

structure Reading where
  tokens : List Token
  /-- The number of each anchor's name, the last first. -/
  names : List (List Char × Nat) := []
  count : Nat := 0
  anchored : List (Nat × Node) := []
  handles : List (List Char × List Char) :=
    [(['!'], ['!']), (['!', '!'], "tag:yaml.org,2002:".toList)]

abbrev Reader := StateT Reading Option

namespace Reader

def peek : Reader (Option Token) := do pure (← get).tokens.head?

def skip : Reader Unit := modify fun r => { r with tokens := r.tokens.drop 1 }

/-- Passes a token if it is the next one. -/
def take (t : Token) : Reader Bool := do
  if (← peek) == some t then do
    skip
    pure true
  else pure false

def expect (t : Token) : Reader Unit := do if ← take t then pure () else failure

/-- Whether the next token is one of some. -/
def before (ts : List Token) : Reader Bool := do pure ((← peek).any ts.contains)

def newAnchor (name : List Char) : Reader Nat := do
  let r ← get
  set { r with names := (name, r.count) :: r.names, count := r.count + 1 }
  pure r.count

/-- The whole tag; a lone exclamation mark says nothing. -/
def resolveTag (handle rest : List Char) : Reader (Option String) := do
  if handle.isEmpty then pure (if rest == ['!'] then none else some (String.ofList rest))
  else match (← get).handles.lookup handle with
    | some start => pure (some (String.ofList (start ++ rest)))
    | none => failure

structure Properties where
  anchor : Option Nat := none
  tag : Option String := none
  any : Bool := false

def anchor? : Reader (Option Nat) := do
  match ← peek with
  | some (.anchor name) => do
    skip
    pure (some (← newAnchor name))
  | _ => pure none

def properties : Reader Properties := do
  let first ← anchor?
  match ← peek with
  | some (.tag handle rest) => do
    skip
    let tag ← resolveTag handle rest
    let anchor ← if first.isSome then pure first else anchor?
    pure ⟨anchor, tag, true⟩
  | _ => pure ⟨first, none, first.isSome⟩

def keep (p : Properties) (n : Node) : Reader Node := do
  match p.anchor with
  | some a => modify fun r => { r with anchored := (a, n) :: r.anchored }
  | none => pure ()
  pure n

structure Where where
  /-- Whether blocks may begin. -/
  block : Bool
  /-- Whether items may stand at the indentation of their key. -/
  flat : Bool

mutual

def node (fuel : Nat) (w : Where) : Reader Node :=
  match fuel with
  | 0 => failure
  | fuel + 1 => do
    match ← peek with
    | some (.alias name) =>
      skip
      match (← get).names.lookup name with
      | some n => pure (.reference n)
      | none => failure
    | _ =>
      let p ← properties
      match ← peek with
      | some .item =>
        if w.flat then keep p (.sequence (← items fuel false [])) else bare p
      | some (.scalar text style) => do
        skip
        keep p (.scalar (String.ofList text) style p.tag)
      | some .openSequence => do
        skip
        keep p (.sequence (← flowItems fuel true []))
      | some .openMapping => do
        skip
        keep p (.mapping (← flowPairs fuel true []))
      | some .blockSequence =>
        if w.block then do
          skip
          keep p (.sequence (← items fuel true []))
        else bare p
      | some .blockMapping =>
        if w.block then do
          skip
          keep p (.mapping (← pairs fuel []))
        else bare p
      | _ => bare p

/-- What has properties need not have content. -/
def bare (p : Properties) : Reader Node :=
  if p.any then keep p (.scalar "" .plain p.tag) else failure

/-- A node, or nothing where one of some tokens follows. -/
def nodeUnless (fuel : Nat) (w : Where) (ends : List Token) : Reader Node :=
  match fuel with
  | 0 => failure
  | fuel + 1 => do
    if (← before ends) || (← peek).isNone then pure .absent else node fuel w

/-- Reads the items of a block. -/
def items (fuel : Nat) (closed : Bool) (out : List Node) : Reader (List Node) :=
  match fuel with
  | 0 => failure
  | fuel + 1 => do
    if ← take .item then
      let ends := if closed then [.item, .blockEnd] else [.item, .key, .value, .blockEnd]
      let n ← nodeUnless fuel ⟨true, false⟩ ends
      items fuel closed (n :: out)
    else if closed then do
      expect .blockEnd
      pure out.reverse
    else pure out.reverse

/-- Reads the pairs of a block. -/
def pairs (fuel : Nat) (out : List (Node × Node)) : Reader (List (Node × Node)) :=
  match fuel with
  | 0 => failure
  | fuel + 1 => do
    if ← take .key then
      let k ← nodeUnless fuel ⟨true, true⟩ [.key, .value, .blockEnd]
      let v ← if ← take .value then nodeUnless fuel ⟨true, true⟩ [.key, .value, .blockEnd]
        else pure .absent
      pairs fuel ((k, v) :: out)
    else do
      expect .blockEnd
      pure out.reverse

/-- Reads the items between brackets. -/
def flowItems (fuel : Nat) (first : Bool) (out : List Node) : Reader (List Node) :=
  match fuel with
  | 0 => failure
  | fuel + 1 => do
    if ← take .closeSequence then pure out.reverse
    else do
      if !first then expect .comma
      if ← take .closeSequence then pure out.reverse
      else if ← take .key then
        let k ← if ← before [.value, .comma, .closeSequence] then do
            skip
            pure .absent
          else node fuel ⟨false, false⟩
        let v ← if ← take .value then nodeUnless fuel ⟨false, false⟩ [.comma, .closeSequence]
          else pure .absent
        flowItems fuel false (.mapping [(k, v)] :: out)
      else do
        let n ← node fuel ⟨false, false⟩
        flowItems fuel false (n :: out)

/-- Reads the pairs between braces. -/
def flowPairs (fuel : Nat) (first : Bool) (out : List (Node × Node)) : Reader (List (Node × Node)) :=
  match fuel with
  | 0 => failure
  | fuel + 1 => do
    if ← take .closeMapping then pure out.reverse
    else do
      if !first then expect .comma
      if ← take .closeMapping then pure out.reverse
      else if ← take .key then
        let k ← nodeUnless fuel ⟨false, false⟩ [.value, .comma, .closeMapping]
        let v ← if ← take .value then nodeUnless fuel ⟨false, false⟩ [.comma, .closeMapping]
          else pure .absent
        flowPairs fuel false ((k, v) :: out)
      else do
        let k ← node fuel ⟨false, false⟩
        flowPairs fuel false ((k, .absent) :: out)

end

def directives : Nat → Bool → List (List Char) → Reader Unit
  | 0, _, _ => failure
  | fuel + 1, version, handles => do
    match ← peek with
    | some .version => do
      if version then failure
      skip
      directives fuel true handles
    | some (.handle name value) => do
      if handles.contains name then failure
      skip
      modify fun r => { r with handles := (name, value) :: r.handles }
      directives fuel version (name :: handles)
    | _ => pure ()

def endMarks : Nat → Reader Unit
  | 0 => pure ()
  | fuel + 1 => do if ← take .documentEnd then endMarks fuel else pure ()

/-- Reads the only document of a text. -/
def document (fuel : Nat) : Reader Document := do
  let marked ← before [.documentStart, .version]
  let marked := marked || match ← peek with
    | some (.handle ..) => true
    | _ => false
  if marked then do
    directives fuel false []
    expect .documentStart
  let root ← nodeUnless fuel ⟨true, false⟩ (if marked then [.version, .documentStart, .documentEnd] else [])
  endMarks fuel
  if (← peek).isSome then failure
  pure ⟨root, (← get).anchored⟩

end Reader

/-- The document of a text that holds no second one. -/
def document? (text : List Char) : Option Document := do
  let tokens ← tokens? text
  let (d, _) ← (Reader.document (8 * tokens.length + 16)).run { tokens }
  some d

end Fanout.Yaml
