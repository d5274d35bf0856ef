import Fanout.Issue.Basic
import Fanout.Json.Record
import Fanout.Path.Basic

/-!
# Changed files and comments

* `PullRequest` : the request that is reviewed;
* `ChangedFile.eligible` : whether a changed file is reviewed, by its extension;
* `Comment` : what is said of one line of a file.
-/

namespace Fanout
open Json

structure PullRequest where
  owner : String
  repo : String
  number : Nat
  deriving Repr, DecidableEq

structure ChangedFile where
  filename : String
  status : String := ""
  deriving Repr, DecidableEq

namespace ChangedFile

/-- A removed file has no content to review. -/
def isRemoved (f : ChangedFile) : Bool := f.status == "removed"

def extension? (f : ChangedFile) : Option String :=
  (Path.extension? f.filename.toList).map fun e => String.ofList (Text.lowerAscii e)

def eligible (extensions : List String) (f : ChangedFile) : Bool :=
  !f.isRemoved && f.extension?.any extensions.contains

def ofJson? (v : Json) : Option ChangedFile := do
  match ← record? [["filename"], ["status"]] v with
  | [filename, status] =>
    some { filename := ← required? string? filename, status := ← defaulted? string? "" status }
  | _ => none

end ChangedFile

structure Comment where
  path : String
  line : UInt32
  body : String
  deriving Repr, DecidableEq

def Issue.commentBody (i : Issue) : String :=
  "🔍 Performance Issue Detected: " ++ i.description ++ "\n\nSuggestion: " ++
    i.suggestion.getD "No specific recommendation available"

/-- The comment on an issue, if the issue names a line. -/
def Comment.ofIssue? (path : String) (i : Issue) : Option Comment :=
  (i.line.filter (0 < ·)).map fun line => ⟨path, line, i.commentBody⟩

def Comment.toJson (c : Comment) : Json :=
  .object [("path", .string c.path), ("line", ofNat c.line.toNat), ("body", .string c.body)]

end Fanout
