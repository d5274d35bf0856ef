import Fanout.Issue.Basic
import Fanout.Tree.Node

/-!
# Rules for repeated requests

* `promiseAllMap` : `Promise.all` over the result of a `map`, many requests at once;
* `awaitedMap` : a `map` below an `await`, a request for every element;
* `findIssues` : what the rules find in a tree, in the order of a walk.

The rules look at names only: any `map` counts, whatever it is called on.
-/

namespace Fanout
namespace Node

/-- Whether a node is a call of a property named `map`. -/
def isMapCall : Node → Bool
  | call _ callee _ => (callee.objectOf? "map").isSome
  | _ => false

/-- Whether a node is a call of `Promise.all` whose first argument is a call of `map`. -/
def isPromiseAllMap : Node → Bool
  | call _ callee arguments =>
    ((callee.objectOf? "all").any (isNamed "Promise")) && (arguments.head?.any isMapCall)
  | _ => false

end Node

namespace Rules

def parallelTitle : String := "Promise.all Over Mapped Requests"
def repeatedTitle : String := "N+1 Query Pattern Detected"

/-- The weight of an awaited `map`. -/
def repeatedImpact : UInt32 := 70

def promiseAllMap (place : Location) (file : Option String) : Issue where
  severity := .warning
  code := "PROMISE_ALL_MAP"
  title := parallelTitle
  description := "Potential N+1 query pattern detected with Promise.all and map"
  line := some place.line
  column := some place.column
  file := file
  suggestion := some "Consider using batch fetching instead of multiple parallel requests"

def awaitedMap (place : Location) (file : Option String) : Issue where
  severity := .critical
  code := "N_PLUS_ONE_QUERY"
  title := repeatedTitle
  description := "Multiple sequential database queries found inside a loop"
  line := some place.line
  column := some place.column
  file := file
  suggestion := some "Use batch fetching to reduce database calls"
  impact := some repeatedImpact

/-- The issues found so far and those of one more call, the last one first. -/
def visitCall (file : Option String) (found : List Issue) (v : Node.Visit) : List Issue :=
  let found :=
    if v.node.isPromiseAllMap then promiseAllMap v.node.place file :: found else found
  if v.node.isMapCall && v.underAwait then awaitedMap v.node.place file :: found else found

def visitor (file : Option String) : Node.Visitor (List Issue) where
  call := visitCall file

end Rules

/-- The issues in a tree, in the order of a walk. -/
def findIssues (root : Node) (file : Option String) : List Issue :=
  (root.walk (Rules.visitor file) []).reverse

end Fanout
