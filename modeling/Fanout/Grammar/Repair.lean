import Fanout.Grammar.Boundary
import Fanout.Grammar.Table

/-!
# The place of an error

A text that has no parse is repaired, and the error stands at the first repair.

* `Repair` : a change that lets the reading go on, what it costs and where it stands;
* `Repair.insertion?` : a token that is missing before the one where the reading is stuck;
* `Repair.skipFrom` : tokens left out before and behind the place where the reading is stuck;
* `Repair.closing?` : braces that are missing where the text ends;
* `firstRepair` : the place of the first repair of a text.

Tokens that are left out keep their width as blanks, so that every index before a change stays what
it was. No statement ends without a semicolon at a change.
-/

namespace Fanout.Grammar
open Source

namespace Repair

/-! ## Costs -/

/-- What it costs to leave something out, whatever it is. -/
def removalCost : Nat := 500
def treeCost : Nat := 100
def rowCost : Nat := 30
def insertionCost : Nat := 610
/-- How many tokens may be left out in a row. -/
def skipLimit : Nat := 200
def repairLimit : Nat := 12

def removal (s : Source) (start stop : Cursor) (trees : Nat) : Nat :=
  removalCost + (s.slice start stop).utf8ByteSize + rowCost * (stop.point.row - start.point.row) +
    treeCost * trees

end Repair

structure Repair where
  source : Source
  cost : Nat
  place : Cursor
  outcome : Outcome

namespace Repair

/-! ## Choosing a repair -/

/-- How much of the text is not accepted after the repair, zero where all of it is. -/
def rest (r : Repair) : Nat :=
  match r.outcome with
  | .accepted _ _ => 0
  | .stuck reach => r.source.chars.size - reach.next.index + 1

/-- Whether a repair is taken rather than one that was found before it. A repair that reads further
may cost more, but not by as much as another removal. -/
def beats (r before : Repair) : Bool :=
  if r.rest == before.rest then r.cost ≤ before.cost
  else if r.rest < before.rest then r.cost < before.cost + removalCost
  else r.cost + removalCost ≤ before.cost

def best? : List Repair → Option Repair
  | [] => none
  | r :: rs => some (rs.foldl (fun chosen r => if r.beats chosen then r else chosen) r)

/-! ## Insertions -/

/-- Tokens that can be missing: an operand or type that is no name, and what ends a phrase. A name is
not among them, because one that is declared ends nothing. -/
def insertable (l : Language) : List String :=
  ["0", "\x7d", ")", ";", "]"] ++ if l.typed then ["!"] else []

/-- The first token that lets the token at `next` follow, where `stop` ends the token before it. -/
def insertion? (l : Language) (s : Source) (stop next : Cursor) : Option Repair :=
  (insertable l).findSome? fun text =>
    let added := (" " ++ text ++ " ").toList.toArray
    let chars := s.chars.extract 0 stop.index ++ added ++ s.chars.extract stop.index s.chars.size
    let source := ofArray chars ((next.index + added.size) :: s.firm)
    let r : Repair := ⟨source, insertionCost, stop, read (phrases l) source⟩
    if r.rest ≤ s.chars.size - next.index then some r else none

/-! ## Removals -/

/-- The end of the token at a cursor: a word, a number or an operator. -/
def tokenEnd (s : Source) (c : Cursor) : Cursor :=
  match Lexeme.skipWord? s c with
  | some stop => stop
  | none =>
    match Lexeme.number.scan s c with
    | some stop => stop
    | none => s.advance (s.operatorAt c).length c

/-- The removal of all between a boundary and the token at `next`, if that token can then follow.
Tokens before `stop` are left out, `skipped` of them behind the error. -/
def removalAt? (l : Language) (s : Source) (stop next : Cursor) (skipped : Nat) (b : Boundary) :
    Option Repair :=
  if !b.admits (s.char? next) then none
  else
    let firm := if b.soft then s.firm else next.index :: s.firm
    let source := ofArray (s.blanked b.start.index stop.index) firm
    let cost := removal s b.start stop (b.trees + skipped)
    let r : Repair := ⟨source, cost, b.start, read (phrases l) source⟩
    if r.rest ≤ s.chars.size - next.index then some r else none

/-- The removal at one of the places, which leaves out the fewest trees. -/
def recovery? (l : Language) (s : Source) (places : List Boundary) (stop next : Cursor)
    (skipped : Nat) : Option Repair :=
  places.findSome? (removalAt? l s stop next skipped)

/-- Leaves out one token after the other behind an error, and lists the first way to go on at each
token behind them. It ends where another repair is cheaper than to leave out more. A token with which
nothing could go on is not tried again, and after many tokens the rest of the text is left out. -/
def skipFrom (l : Language) (s : Source) (here : Boundary) (before : List Boundary) :
    Nat → Nat → Cursor → Cursor → List String → List Repair → List Repair
  | 0, skipped, _, _, _, found =>
    let stop := s.advance s.chars.size here.start
    found ++ (recovery? l s (here :: before) stop stop skipped).toList
  | fuel + 1, skipped, stop, next, refused, found =>
    let past := tokenEnd s next
    let text := s.slice next past
    let places := if skipped == 0 then before else here :: before
    let recovered := if refused.contains text then none else recovery? l s places stop next skipped
    let found := found ++ recovered.toList
    if s.char? next == none then found
    else
      let refused := if skipped > 0 && recovered.isNone then text :: refused else refused
      let cost := removal s here.start past (skipped + 1)
      let rest := s.chars.size - next.index
      if skipped > 0 && found.any (fun r => r.cost < cost && r.rest ≤ rest) then found
      else skipFrom l s here before fuel (skipped + 1) past (s.gap past).next refused found

/-! ## Texts that end too early -/

/-- Whether a brace that closes a node can be missing where the text ends. It cannot where an object
could stand, which does not end a statement. -/
def closable (node : String × List Concrete) (parent : String) : Bool :=
  ["class_body", "switch_body", "enum_body", "interface_body"].contains node.1 ||
    (node.1 == "statement_block" && (parent != "arrow_function" || node.2.length > 1))

/-- How many braces are missing where the text ends, if nothing but braces can be. -/
def openBraces? (reach : Reach) : Option Nat :=
  let nodes := reach.openNodes
  let parents := (nodes.drop 1).map (·.1)
  let braced := (nodes.zip parents).filter fun (node, _) => node.2.any (·.label.kind == "\x7b")
  if braced.all fun (node, parent) => closable node parent then some braced.length else none

def closing? (l : Language) (s : Source) (reach : Reach) : Option Repair :=
  (openBraces? reach).bind fun count =>
    let source := ofArray (s.chars ++ Array.replicate count '\x7d') s.firm
    let r : Repair := ⟨source, insertionCost * count, reach.spot.cursor, read (phrases l) source⟩
    if r.rest == 0 then some r else none

def whole (s : Source) (reach : Reach) : Repair :=
  let start := s.skipWhile isGap .start
  let trees := (reach.openNodes.flatMap fun n => Boundary.solid n.2).length
  ⟨s, removal s start reach.spot.cursor trees, start, .accepted [] reach.spot.cursor⟩

/-! ## Repairs of a text -/

/-- The repairs at the token where a text is stuck, in the order in which they are found. -/
def all (l : Language) (s : Source) (reach : Reach) : List Repair :=
  let next := (s.gap reach.next).next
  let here := Boundary.here l s reach next
  let found := skipFrom l s here (Boundary.before l s reach) skipLimit 0 reach.spot.cursor next []
    (insertion? l s reach.spot.cursor next).toList
  if s.char? next == none then whole s reach :: (found ++ (closing? l s reach).toList) else found

/-- The place of the first repair of a text that is stuck, where `place` is the first one so far. -/
def firstFrom (l : Language) : Nat → Source → Reach → Option Cursor → Cursor
  | 0, _, reach, place => place.getD reach.next
  | fuel + 1, s, reach, place =>
    let r := (best? (all l s reach)).getD (whole s reach)
    let first := match place with
      | some p => if r.place.index < p.index then r.place else p
      | none => r.place
    match r.outcome with
    | .accepted _ _ => first
    | .stuck reach => firstFrom l fuel r.source reach (some first)

end Repair

def firstRepair (l : Language) (s : Source) (reach : Reach) : Cursor :=
  Repair.firstFrom l Repair.repairLimit s reach none

end Fanout.Grammar
