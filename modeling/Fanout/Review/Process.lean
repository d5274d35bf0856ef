import Fanout.Analysis.Finish
import Fanout.Remote.Error
import Fanout.Review.Change

/-!
# Reviewing a pull request

* `Host` : what a code host answers, in any monad;
* `FileOutcome` : what becomes of one changed file;
* `ReviewReport.ofOutcomes` : the counts, comments and failures of a review;
* `review` : the whole review. Files are taken one after another, and so are their comments; a
  failure stops nothing but the file or the comment that it concerns.
-/

namespace Fanout
open Json

structure Host (m : Type → Type) where
  headSha : PullRequest → m (Except RemoteError String)
  listFiles : PullRequest → m (Except RemoteError (List ChangedFile))
  fileContent : PullRequest → (path ref : String) → m (Except RemoteError String)
  postComment : PullRequest → (commit : String) → Comment → m (Except RemoteError Unit)

inductive Delivery where
  /-- It is not posted in a dry run. -/
  | planned
  | posted
  | failed (e : RemoteError)
  deriving Repr

inductive FileOutcome where
  | skipped
  | unfetched (e : RemoteError)
  | unparsed (e : ParseError)
  | scanned (issues : Nat) (comments : List (Comment × Delivery))
  deriving Repr

/-- What becomes of a whole review. -/
inductive ReviewOutcome where
  | headless (e : RemoteError)
  | unlisted (e : RemoteError)
  | reviewed (head : String) (files : List (ChangedFile × FileOutcome))
  deriving Repr

structure ReviewReport where
  filesScanned : Nat := 0
  filesSkipped : Nat := 0
  commentsPosted : Nat := 0
  dryRun : Bool := false
  comments : List Comment := []
  failures : List String := []
  deriving Repr, DecidableEq, Inhabited

namespace FileOutcome

def isScanned : FileOutcome → Bool
  | .scanned .. => true
  | _ => false

def isSkipped : FileOutcome → Bool
  | .skipped => true
  | _ => false

def deliveries : FileOutcome → List (Comment × Delivery)
  | .scanned _ comments => comments
  | _ => []

/-- What went wrong with a file, in the order in which it did. -/
def failures (f : ChangedFile) : FileOutcome → List String
  | .skipped => []
  | .unfetched e => [f.filename ++ ": " ++ e.message]
  | .unparsed e => [f.filename ++ ": " ++ e.message]
  | .scanned _ comments => comments.filterMap fun (c, d) =>
    match d with
    | .failed e => some s!"{f.filename}:{c.line.toNat}: {e.message}"
    | _ => none

end FileOutcome

def Delivery.isPosted : Delivery → Bool
  | .posted => true
  | _ => false

namespace ReviewReport

def ofFiles (dryRun : Bool) (files : List (ChangedFile × FileOutcome)) : ReviewReport :=
  let deliveries := files.flatMap fun (_, o) => o.deliveries
  { filesScanned := files.countP fun (_, o) => o.isScanned
    filesSkipped := files.countP fun (_, o) => o.isSkipped
    commentsPosted := deliveries.countP fun (_, d) => d.isPosted
    dryRun
    comments := deliveries.map fun (c, _) => c
    failures := files.flatMap fun (f, o) => o.failures f }

def ofOutcome (dryRun : Bool) : ReviewOutcome → ReviewReport
  | .headless e => { dryRun, failures := ["head: " ++ e.message] }
  | .unlisted e => { dryRun, failures := ["files: " ++ e.message] }
  | .reviewed _ files => ofFiles dryRun files

def toJson (r : ReviewReport) : Json :=
  .object
    [("filesScanned", ofNat r.filesScanned), ("filesSkipped", ofNat r.filesSkipped),
      ("commentsPosted", ofNat r.commentsPosted), ("dryRun", .bool r.dryRun),
      ("comments", .array (r.comments.map Comment.toJson)), ("failures", ofStrings r.failures)]

end ReviewReport

variable {m : Type → Type} [Monad m]

/-- Posts a comment, unless nothing is to be posted. -/
def deliver (host : Host m) (pr : PullRequest) (head : String) (dryRun : Bool) (c : Comment) :
    m (Comment × Delivery) := do
  if dryRun then pure (c, .planned)
  else match ← host.postComment pr head c with
    | .ok () => pure (c, .posted)
    | .error e => pure (c, .failed e)

def commentsOn (path : String) (issues : List Issue) : List Comment :=
  issues.filterMap (Comment.ofIssue? path)

def reviewFile [TreeReader] (host : Host m) (pr : PullRequest) (head : String) (extensions : List String)
    (dryRun : Bool) (f : ChangedFile) : m (ChangedFile × FileOutcome) := do
  if !f.eligible extensions then pure (f, .skipped)
  else match ← host.fileContent pr f.filename head with
    | .error e => pure (f, .unfetched e)
    | .ok content =>
      match findSourceIssues (Language.ofPath f.filename) (some f.filename) content with
      | .error e => pure (f, .unparsed e)
      | .ok issues =>
        let delivered ← (commentsOn f.filename issues).mapM (deliver host pr head dryRun)
        pure (f, .scanned issues.length delivered)

def reviewOutcome [TreeReader] (host : Host m) (pr : PullRequest) (extensions : List String)
    (dryRun : Bool) : m ReviewOutcome := do
  match ← host.headSha pr with
  | .error e => pure (.headless e)
  | .ok head =>
    match ← host.listFiles pr with
    | .error e => pure (.unlisted e)
    | .ok files =>
      pure (.reviewed head (← files.mapM (reviewFile host pr head extensions dryRun)))

def review [TreeReader] (host : Host m) (pr : PullRequest) (extensions : List String)
    (dryRun : Bool) : m ReviewReport := do
  pure (.ofOutcome dryRun (← reviewOutcome host pr extensions dryRun))

end Fanout
