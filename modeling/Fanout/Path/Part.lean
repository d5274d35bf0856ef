import Fanout.Path.Basic

/-!
# Parts of a path

* `Path.parts` : what a path names step by step. Empty pieces and `.` count for nothing, except a
  `.` with which the path begins;
* `Path.key` : paths are ordered part by part, and two paths with the same parts are the same place;
* `Path.below` : the parts of a path behind those of another;
* `Path.relativeTo?` : a path as it is written from another.
-/

namespace Fanout.Path

inductive Part
  /-- The slash with which an absolute path begins. -/
  | root
  /-- The dot with which a path begins. -/
  | here
  | up
  | name (text : List Char)
  deriving Repr, DecidableEq

def Part.text : Part → List Char
  | .root => ['/']
  | .here => ['.']
  | .up => ['.', '.']
  | .name t => t

/-- The root comes first, then the dot, then `..`, then the names by their characters. -/
def Part.key : Part → List Nat
  | .root => [0]
  | .here => [1]
  | .up => [2]
  | .name t => 3 :: t.map Char.toNat

def Part.ofPiece (piece : List Char) : Part := if piece = ['.', '.'] then .up else .name piece

def isAbsolute (path : List Char) : Bool := path.head? == some '/'

def parts (path : List Char) : List Part :=
  let rest := (components path).map Part.ofPiece
  match pieces path with
  | [] :: _ :: _ => .root :: rest
  | ['.'] :: _ => .here :: rest
  | _ => rest

def key (path : List Char) : List (List Nat) := (parts path).map Part.key

/-- What is left of some parts behind others, if they begin with those. -/
def behind? : List Part → List Part → Option (List Part)
  | [], rest => some rest
  | _ :: _, [] => none
  | a :: as, b :: bs => if a = b then behind? as bs else none

/-- The parts of `path` below `base`, or all of them if it does not lie below. -/
def below (base path : List Char) : List Part :=
  (behind? (parts base) (parts path)).getD (parts path)

/-- A path continued by another: an absolute one stands for itself. -/
def join (base path : List Char) : List Char :=
  if isAbsolute path || base.isEmpty then path
  else if base.getLast? == some '/' then base ++ path
  else base ++ '/' :: path

def ofParts (ps : List Part) : List Char := ps.foldl (fun path p => join path p.text) []

/-- The way from one list of parts to another whose beginnings have been compared. `none` if it
would have to go back over a `..`. -/
def way? : List Part → List Part → List Part → Option (List Part)
  | done, path, [] => some (done ++ path)
  | done, [], _ :: base => way? (done ++ [.up]) [] base
  | done, a :: path, b :: base =>
    if done.isEmpty && a == b then way? done path base
    else if b = .here then way? (done ++ [a]) path base
    else if b = .up then none
    else some (done ++ .up :: base.map (fun _ => .up) ++ a :: path)

def relativeTo? (base path : List Char) : Option (List Char) :=
  if isAbsolute path != isAbsolute base then if isAbsolute path then some path else none
  else (way? [] (parts path) (parts base)).map ofParts

/-- Whether a piece of a path counts, the first one told by `leading`. -/
def counts (leading : Bool) (piece : List Char) : Bool :=
  !piece.isEmpty && (leading || piece != ['.'])

/-- The longest beginning of some pieces whose last piece counts. -/
def trimmed (leading : Bool) : List (List Char) → List (List Char)
  | [] => []
  | piece :: rest =>
    match trimmed false rest with
    | [] => if counts leading piece then [piece] else []
    | more => piece :: more

/-- A path without its last part. The root and the empty path have none. -/
def parent? (path : List Char) : Option (List Char) :=
  match trimmed true (pieces path) with
  | [] => none
  | kept =>
    match trimmed true kept.dropLast with
    | [] => some (if isAbsolute path then ['/'] else [])
    | shorter => some (['/'].intercalate shorter)

end Fanout.Path
