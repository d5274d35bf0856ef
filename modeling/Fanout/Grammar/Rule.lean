import Fanout.Grammar.Lexeme

/-!
# Rules of a grammar

* `Phrase` : the phrases that a rule can name, and so the places where a grammar is recursive;
* `Mode` : what surrounds the place that is being read;
* `Ahead` : what a rule may look at before it decides;
* `Head`, `Part` : the fields that a child may fill, those of a first child and those of others;
* `Rule` : a way to read a text, with ordered choice.

A rule says both what it accepts and which nodes it leaves: a rule leaves a list of nodes, `node`
makes one node of them, and `extend` makes them and the node left just before into one node.
-/

namespace Fanout.Grammar
open Source

inductive Phrase where
  | program | statement | block
  | expressions | expression | binary | binaryTail | unary | operand | primary | chain | chainTail
  | pattern | arguments | callSignature | classBody | decorator
  | template | string | object | array
  | type | union | intersection | plainType | typeArguments | typeParameters | objectType
  | element
  deriving Repr, DecidableEq

structure Mode where
  /-- Whether a line break may end a statement here: within a statement, but in no bracket. -/
  softEnd : Bool := true
  /-- Whether the next colon belongs to a conditional expression. -/
  consequence : Bool := false
  /-- The loosest binary operators that belong to the expression being read. -/
  level : Nat := 0
  /-- Whether casts belong to the expression being read. -/
  casts : Bool := true
  deriving Repr, Inhabited

/-- What stands before a rule: the next token, and the kind of the node that was left last. -/
structure Ahead where
  source : Source
  next : Cursor
  /-- Whether a line ends before the next token. -/
  broken : Bool
  mode : Mode
  last : String

namespace Ahead

def char (a : Ahead) (offset : Nat := 0) : Char := a.source.charAt a.next offset

def word (a : Ahead) : String := Lexeme.wordAt a.source a.next

def operator (a : Ahead) : String := String.ofList (a.source.operatorAt a.next)

def isOperator (a : Ahead) (text : String) : Bool := a.source.operatorAt a.next == text.toList

def behind (a : Ahead) (index : Nat) : Ahead :=
  let g := a.source.gap ⟨index, ⟨0, 0⟩⟩
  { a with next := g.next, broken := g.broken }

def afterChar (a : Ahead) (count : Nat := 1) : Ahead := a.behind (a.next.index + count)

def afterWord (a : Ahead) : Ahead :=
  match Lexeme.skipWord? a.source a.next with
  | some stop => a.behind stop.index
  | none => a

/-- What stands behind the partner of the bracket that comes next. -/
def afterPartner? (a : Ahead) : Option Ahead :=
  match a.source.partners[a.next.index]? with
  | some (index + 1) => some (a.behind (index + 2))
  | _ => none

def startsWord (a : Ahead) : Bool := (Lexeme.skipWord? a.source a.next).isSome

/-- Whether a statement ends here, were the next token one that starts a statement. -/
def ends (a : Ahead) : Bool := a.broken && a.mode.softEnd

end Ahead

/-- The field that the node left just before fills in the node that is made of it. -/
inductive Head where
  | function
  | object
  deriving Repr, DecidableEq

def Head.name : Head → String
  | .function => "function"
  | .object => "object"

/-- A field that a node may fill behind the first one. -/
inductive Part where
  | arguments
  | property
  deriving Repr, DecidableEq

def Part.name : Part → String
  | .arguments => "arguments"
  | .property => "property"

inductive Rule where
  | done
  | fail
  | lexeme (l : Lexeme)
  | phrase (p : Phrase)
  | seq (a b : Rule)
  | alt (a b : Rule)
  /-- A rule as many times as it accepts more text. -/
  | many (a : Rule)
  | ahead (choose : Ahead → Rule)
  /-- Accepts the empty text where the rule would accept some. -/
  | peek (a : Rule)
  /-- Accepts the empty text where the rule would fail. -/
  | reject (a : Rule)
  | node (kind : String) (a : Rule)
  /-- A node whose first child is the node left just before, as the given field. A comment is not
  extended. -/
  | extend (kind : String) (head : Option Head) (a : Rule)
  | field (part : Part) (a : Rule)
  | within (change : Mode → Mode) (a : Rule)

namespace Rule

instance : Append Rule := ⟨seq⟩
instance : OrElse Rule := ⟨fun a b => alt a (b ())⟩

def mark (text : String) : Rule := lexeme (.mark text)
def glyph (ch : Char) : Rule := lexeme (.glyph ch)
def keyword (text : String) : Rule := lexeme (.keyword text)
def leaf (text : String) : Rule := lexeme (.leafWord text text)

def word (kind : String) : Rule := lexeme (.word kind [])

def maybe (a : Rule) : Rule := alt a done
def repeated (a : Rule) : Rule := a ++ many a

def guard (condition : Ahead → Bool) (a : Rule) : Rule := ahead fun here => if condition here then a else fail

/-- A rule that is left out unless a condition holds. -/
def onlyIf (condition : Ahead → Bool) (a : Rule) : Rule := ahead fun here => if condition here then a else done

/-- Items between commas, where an item may be left out. -/
def holedList (item : Rule) : Rule := maybe item ++ many (mark "," ++ maybe item)

/-- One item or more between commas. -/
def list (item : Rule) : Rule := item ++ many (mark "," ++ item)

/-- One item or more between commas, and perhaps a comma behind them. -/
def trailedList (item : Rule) : Rule := list item ++ maybe (mark ",")

/-- A rule inside brackets, where no line break ends a statement. -/
def inBrackets (a : Rule) : Rule := within (fun m => { m with softEnd := false, consequence := false }) a

/-- A rule inside a body, where line breaks end statements again. -/
def inBody (a : Rule) : Rule := within (fun m => { m with softEnd := true, consequence := false }) a

def parenthesized (a : Rule) : Rule := mark "(" ++ inBrackets a ++ mark ")"
def bracketed (a : Rule) : Rule := mark "[" ++ inBrackets a ++ mark "]"
def braced (a : Rule) : Rule := mark "\x7b" ++ inBrackets a ++ mark "\x7d"

end Rule
end Fanout.Grammar
