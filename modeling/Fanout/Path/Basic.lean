import Fanout.Text.Ascii

/-!
# Names of files

* `components` : the parts of a path between slashes that are neither empty nor `.`;
* `fileName?` : the last component, unless it is `..`;
* `extension?` : what follows the last dot of the file name, unless that dot stands first;
* `normalExtension` : an extension without dots before it, in lower case.
-/

namespace Fanout.Path

def pieces (path : List Char) : List (List Char) := Text.splitAt (· == '/') path

def components (path : List Char) : List (List Char) :=
  (pieces path).filter fun piece => !piece.isEmpty && piece != ['.']

def fileName? (path : List Char) : Option (List Char) :=
  match (components path).getLast? with
  | some name => if name = ['.', '.'] then none else some name
  | none => none

/-- What follows the last dot of a name, if a character stands before that dot. -/
def extensionOf? (name : List Char) : Option (List Char) :=
  let tail := name.reverse.takeWhile (· != '.')
  if tail.length + 1 < name.length then some tail.reverse else none

def extension? (path : List Char) : Option (List Char) := (fileName? path).bind extensionOf?

/-- An extension as it is compared: without dots before it, in lower case. -/
def normalExtension (e : String) : String :=
  String.ofList (Text.lowerAscii (e.toList.dropWhile (· == '.')))

end Fanout.Path
