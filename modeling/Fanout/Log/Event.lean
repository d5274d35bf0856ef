import Fanout.Glob.Pattern
import Fanout.Log.Filter
import Fanout.Remote.Error
import Fanout.Text.Quoted
import Fanout.Tree.Parse

/-!
# Events

* `Event` : what the log tells of;
* `Event.level`, `Event.target`, `Event.line` : its weight, the part of the program that it comes
  from, and its line in the log.
-/

namespace Fanout
open Log

inductive Event
  | invalidConfig (path : List Char)
  | brokenPattern (pattern : String) (fault : Glob.Fault)
  | scanning (files : Nat)
  | unreadable (file reason : String)
  | matched (file : String) (issues : Nat)
  | unparsed (file : String) (e : ParseError)
  /-- The insight on a file is about to be asked for. -/
  | asking (file : String)
  | requesting (url model : String)
  | unanswered (e : RemoteError)
  | insightDisabled (e : RemoteError)
  | headless (e : RemoteError)
  | unlisted (e : RemoteError)
  | reviewing (files : Nat) (head : String)
  | skipped (file status : String)
  | unfetched (file : String) (e : RemoteError)
  | unreviewed (file : String) (e : ParseError)
  | unposted (file : String) (line : UInt32) (e : RemoteError)

namespace Event

def level : Event → Level
  | .scanning _ | .reviewing .. => .info
  | .matched .. | .asking _ | .requesting .. | .skipped .. => .debug
  | _ => .warn

def target : Event → String
  | .invalidConfig _ => "perfsense::config"
  | .brokenPattern .. | .scanning _ | .unreadable .. | .asking _ => "perfsense::scan"
  | .matched .. | .unparsed .. => "perfsense::analyzer"
  | .requesting .. | .unanswered _ => "perfsense::augment::client"
  | .insightDisabled _ => "perfsense"
  | _ => "perfsense::github"

def message : Event → String
  | .invalidConfig _ => "ignoring invalid config"
  | .brokenPattern .. => "skipping invalid glob pattern"
  | .scanning _ => "scanning"
  | .unreadable .. => "unreadable file"
  | .matched .. => "pattern match complete"
  | .unparsed .. | .unreviewed .. => "analysis failed"
  | .asking _ | .requesting .. => "requesting remote insight"
  | .unanswered _ => "remote insight unavailable; using local analysis only"
  | .insightDisabled _ => "remote insight disabled"
  | .headless _ => "could not resolve pull request head"
  | .unlisted _ => "could not list pull request files"
  | .reviewing .. => "reviewing pull request"
  | .skipped .. => "skipping file"
  | .unfetched .. => "could not fetch file content"
  | .unposted .. => "could not post comment"

def fields : Event → List (String × String)
  | .invalidConfig path => [("path", String.ofList path), ("error", "the file is no configuration")]
  | .brokenPattern pattern fault => [("pattern", pattern), ("error", fault.message)]
  | .scanning files => [("files", toString files)]
  | .unreadable file reason => [("file", file), ("error", reason)]
  | .matched file issues => [("file", Text.quoted file), ("issues", toString issues)]
  | .unparsed file e => [("file", Text.quoted file), ("error", e.message)]
  | .asking file => [("file", file)]
  | .requesting url model => [("url", url), ("model", model)]
  | .unanswered e | .insightDisabled e | .headless e | .unlisted e => [("error", e.message)]
  | .reviewing files head => [("files", toString files), ("head", head)]
  | .skipped file status => [("file", file), ("status", status)]
  | .unfetched file e => [("file", file), ("error", e.message)]
  | .unreviewed file e => [("file", file), ("error", e.message)]
  | .unposted file line e =>
    [("file", file), ("line", toString line.toNat), ("error", e.message)]

def line (e : Event) : String :=
  " ".intercalate ([e.level.label, e.message] ++ e.fields.map fun (k, v) => k ++ "=" ++ v)

/-- Whether a filter lets an event pass. The message counts as a field. -/
def passes (e : Event) (f : Filter) : Bool :=
  f.enables e.level e.target ("message" :: e.fields.map (·.1))

def unheard {m : Type → Type} [Pure m] (_ : Event) : m Unit := pure ()

end Event
end Fanout
