import Fanout.Analysis.Finish
import Fanout.Log.Event
import Fanout.Report.Scan

/-!
# Completing a scan

* `LocalFile` : a file after the local half of its analysis;
* `complete` : the report of such files. A provider of insights is asked once for each file that
  could be read, in the order of the files;
* `scanSource` : the report of one text under a name.

What is told of a scan on the way goes to a `tell` that does not change the report.
-/

namespace Fanout

inductive LocalFile
  /-- A file that could be read, with the name under which it is reported. -/
  | read (display text : String) (found : Except ParseError (List Issue))
  | unreadable (display reason : String)

def unreadableReason (reason : String) : String := "Failed to read file: " ++ reason

namespace LocalFile

def ofText [TreeReader] (display text : String) (language : Language) : LocalFile :=
  .read display text (findSourceIssues language (some display) text)

def display : LocalFile → String
  | .read display _ _ | .unreadable display _ => display

def source? : LocalFile → Option String
  | .read _ text _ => some text
  | .unreadable _ _ => none

def outcome : LocalFile → LocalOutcome
  | .read display _ found => .ofFound (some display) found
  | .unreadable display reason => .failed (errorIssue (unreadableReason reason) (some display))

end LocalFile

def Event.ofLocalFile : LocalFile → Event
  | .read file _ (.ok issues) => .matched file issues.length
  | .read file _ (.error e) => .unparsed file e
  | .unreadable file reason => .unreadable file reason

variable {m : Type → Type} [Monad m]

def completeFile (tell : Event → m Unit) (provider : Option (String → m Insight))
    (model : LoadTimeModel) (f : LocalFile) : m FileReport := do
  match provider, f.source? with
  | some ask, some text =>
    tell (.asking f.display)
    pure ⟨f.display, finish f.outcome (some (← ask text)) model⟩
  | _, _ => pure ⟨f.display, finish f.outcome none model⟩

def complete (provider : Option (String → m Insight)) (model : LoadTimeModel)
    (files : List LocalFile) (tell : Event → m Unit := Event.unheard) : m ScanReport := do
  pure (.ofFiles (← files.mapM (completeFile tell provider model)))

/-- The file of a text whose name also tells its language. -/
def namedFile [TreeReader] (name text : String) : LocalFile := .ofText name text (Language.ofPath name)

def scanSource [TreeReader] (provider : Option (String → m Insight)) (model : LoadTimeModel)
    (name text : String) (tell : Event → m Unit := Event.unheard) : m ScanReport := do
  let f := namedFile name text
  tell (.ofLocalFile f)
  complete provider model [f] tell

end Fanout
