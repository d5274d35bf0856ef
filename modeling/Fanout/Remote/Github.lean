import Fanout.Json.Shape
import Fanout.Remote.Content
import Fanout.Remote.Http
import Fanout.Review.Process

/-!
# The host of pull requests

* `GithubClient.create` : a client of the service at an address;
* `listPages` : the items of a listing that is served in pages of a hundred, thirty pages at most;
* `GithubClient.host` : the client as a host for reviews.
-/

namespace Fanout
open Json

def pageSize : Nat := 100

def maxPages : Nat := 30

structure GithubClient where
  base : Url
  token : String

namespace GithubClient

def create (base token : String) : Except RemoteError GithubClient :=
  match Url.ofText base with
  | .ok url => .ok ⟨url, token⟩
  | .error f => .error (.invalidUrl (base ++ ": " ++ f.message))

/-! ## Replies -/

def headReply : Shape String :=
  .record1 "PullRequestBody"
    { key := "head", shape := .record1 "HeadBody" { key := "sha", shape := .text } }

def fileReply : Shape (String × String) :=
  .record2 "ChangedFile" { key := "filename", shape := .text }
    { key := "status", shape := .text, absent := some "", beyond := some "" }

def filesReply : Shape (List (String × String)) := .list fileReply

def contentReply : Shape (String × String) :=
  .record2 "ContentBody" { key := "content", shape := .text, absent := some "", beyond := some "" }
    { key := "encoding", shape := .text, absent := some "", beyond := some "" }

def readReply {α : Type} (shape : Shape α) (text : String) : Except RemoteError α :=
  (Shape.ofText shape text).mapError fun f => .malformedReply f.message

/-! ## Requests -/

variable (c : GithubClient)

def headers (body : Option Json) : List (String × String) :=
  [bearer c.token, ("accept", "application/vnd.github+json"), ("x-github-api-version", "2022-11-28"),
    ("user-agent", "perfsense/0.1.0")] ++ contentHeaders body

/-- The address below the base that some segments lead to. -/
def address (segments : List String) : Except RemoteError Url :=
  match c.base.extend? segments with
  | some url => .ok url
  | none => .error (.invalidUrl c.base.text)

def pullAddress (pr : PullRequest) (tail : List String) : Except RemoteError Url :=
  c.address (["repos", pr.owner, pr.repo, "pulls", toString pr.number] ++ tail)

/-- The pieces of a path that are not empty. -/
def pathPieces (path : String) : List String :=
  ((Path.pieces path.toList).filter fun p => !p.isEmpty).map String.ofList

def contentAddress (pr : PullRequest) (path ref : String) : Except RemoteError Url :=
  (c.address (["repos", pr.owner, pr.repo, "contents"] ++ pathPieces path)).map fun url =>
    url.addQuery "ref" ref

def pageAddress (pr : PullRequest) (page : Nat) : Except RemoteError Url :=
  (c.pullAddress pr ["files"]).map fun url =>
    (url.addQuery "per_page" (toString pageSize)).addQuery "page" (toString page)

def commentJson (commit : String) (x : Comment) : Json :=
  .object
    [("body", .string x.body), ("commit_id", .string commit), ("path", .string x.path),
      ("line", ofNat x.line.toNat), ("side", .string "RIGHT")]

variable {m : Type → Type} [Monad m] (fetch : Fetch m)

def send (method : Method) (url : Url) (body : Option Json := none) : ExceptT RemoteError m String :=
  exchange fetch "github" { method, url, headers := c.headers body, body }

def getReply {α : Type} (shape : Shape α) (url : Except RemoteError Url) : ExceptT RemoteError m α := do
  let text ← c.send fetch .get (← liftExcept url)
  liftExcept (readReply shape text)
where
  liftExcept {β : Type} (e : Except RemoteError β) : ExceptT RemoteError m β := ExceptT.mk (pure e)

end GithubClient

section Pages

variable {m : Type → Type} [Monad m] {α : Type}

/-- The items on at most `count` pages, from the page `first` on. A page that is not full is the last one. -/
def pagesFrom (page : Nat → ExceptT RemoteError m (List α)) :
    (count first : Nat) → ExceptT RemoteError m (List α)
  | 0, _ => pure []
  | count + 1, first => do
    let items ← page first
    if items.length < pageSize then pure items
    else do pure (items ++ (← pagesFrom page count (first + 1)))

def listPages (page : Nat → ExceptT RemoteError m (List α)) : ExceptT RemoteError m (List α) :=
  pagesFrom page maxPages 1

end Pages

namespace GithubClient

variable {m : Type → Type} [Monad m] (c : GithubClient) (fetch : Fetch m)

def headSha (pr : PullRequest) : ExceptT RemoteError m String :=
  c.getReply fetch headReply (c.pullAddress pr [])

def filePage (pr : PullRequest) (page : Nat) : ExceptT RemoteError m (List ChangedFile) := do
  let files ← c.getReply fetch filesReply (c.pageAddress pr page)
  pure (files.map fun (filename, status) => { filename, status })

def listFiles (pr : PullRequest) : ExceptT RemoteError m (List ChangedFile) :=
  listPages (c.filePage fetch pr)

def fileContent (pr : PullRequest) (path ref : String) : ExceptT RemoteError m String := do
  let (content, encoding) ← c.getReply fetch contentReply (c.contentAddress pr path ref)
  ExceptT.mk (pure (decodeContent content encoding))

def postComment (pr : PullRequest) (commit : String) (x : Comment) : ExceptT RemoteError m Unit := do
  let url ← ExceptT.mk (pure (c.pullAddress pr ["comments"]))
  let _ ← c.send fetch .post url (some (commentJson commit x))

def host : Host m where
  headSha pr := (c.headSha fetch pr).run
  listFiles pr := (c.listFiles fetch pr).run
  fileContent pr path ref := (c.fileContent fetch pr path ref).run
  postComment pr commit x := (c.postComment fetch pr commit x).run

end GithubClient
end Fanout
