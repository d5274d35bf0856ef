import Fanout.Bytes.Utf8
import Fanout.Path.Part

/-!
# Files

* `Files m` : what the program asks of the files it works on;
* `FileTree` : files and directories by name, and what a path leads to in them (`FileTree.find?`);
* `FileTree.files` : a tree as the files to work on, seen from a directory in it.
-/

namespace Fanout

inductive FileKind
  | file
  | directory
  deriving Repr, DecidableEq

/-- Answers about files. Paths that are not absolute start at the working directory. -/
structure Files (m : Type → Type) where
  /-- What stands at a path, if anything does. -/
  kind? : List Char → m (Option FileKind)
  /-- The names in a directory, none where there is no directory that can be listed. -/
  names : List Char → m (List (List Char))
  /-- The text of a file, or why it cannot be had. -/
  text : List Char → m (Except String String)

inductive FileTree
  | file (content : List UInt8)
  | directory (entries : List (List Char × FileTree))

namespace FileTree

def kind : FileTree → FileKind
  | .file _ => .file
  | .directory _ => .directory

def entries : FileTree → List (List Char × FileTree)
  | .file _ => []
  | .directory es => es

def isDirectory : FileTree → Bool
  | .file _ => false
  | .directory _ => true

def empty : FileTree := .directory []

/-- Follows the pieces of a path. `above` holds the directories over the present place, the nearest
one first. Nothing leads on from a file, not even a slash or a dot. -/
def follow (above : List FileTree) (here : FileTree) : List (List Char) → Option FileTree
  | [] => some here
  | piece :: rest =>
    match here with
    | .file _ => none
    | .directory entries =>
      if piece = [] || piece = ['.'] then follow above here rest
      else if piece = ['.', '.'] then
        match above with
        | [] => follow [] here rest
        | up :: more => follow more up rest
      else match entries.lookup piece with
        | some next => follow (here :: above) next rest
        | none => none

def absolute (cwd path : List Char) : List Char := Path.join cwd path

/-- What stands at a path, seen from the directory `cwd`. The empty path leads nowhere. -/
def find? (root : FileTree) (cwd path : List Char) : Option FileTree :=
  if path.isEmpty then none else follow [] root (Path.pieces (absolute cwd path))

/-- The reasons why there is no text at a path. -/
def text (found : Option FileTree) : Except String String :=
  match found with
  | none => .error "No such file or directory (os error 2)"
  | some (.directory _) => .error "Is a directory (os error 21)"
  | some (.file bytes) =>
    match Utf8.decode bytes with
    | .ok cs => .ok (String.ofList cs)
    | .error _ => .error "stream did not contain valid UTF-8"

def files (root : FileTree) (cwd : List Char) : Files Id where
  kind? path := (root.find? cwd path).map kind
  names path := (root.find? cwd path).elim [] fun t => t.entries.map (·.1)
  text path := text (root.find? cwd path)

/-! ## Building a tree -/

/-- Puts a tree at the place that some names lead to. What stands in the way is replaced. -/
def insert (new : FileTree) : List (List Char) → FileTree → FileTree
  | [], _ => new
  | name :: rest, t =>
    let old := (t.entries.lookup name).getD empty
    .directory (t.entries.filter (fun e => e.1 != name) ++ [(name, insert new rest old)])

end FileTree

end Fanout
