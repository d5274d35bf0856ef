import Fanout.Program

/-!
# The command line

* `machine` : the files, variables and streams of the machine that the program runs on;
* `main` : runs the program and prints what it has to say.

Directories are told from files but not listed, so a pattern finds what it names outright. No
connection is made from here: a service that is asked does not answer.
-/

namespace Fanout
namespace Machine

/-- The bytes of a stream behind those read so far. -/
partial def readRest (stream : IO.FS.Stream) (before : ByteArray) : IO ByteArray := do
  let more ← stream.read 65536
  if more.isEmpty then pure before else readRest stream (before ++ more)

/-- What stands at a path, or why nothing can be read there. -/
def find (path : List Char) : IO (Except String FileTree) := do
  try
    let bytes ← IO.FS.readBinFile (String.ofList path)
    pure (.ok (.file bytes.toList))
  catch
    | .inappropriateType _ 21 _ => pure (.ok .empty)
    | .noFileOrDirectory .. => pure (.error "No such file or directory (os error 2)")
    | .permissionDenied .. => pure (.error "Permission denied (os error 13)")
    | e => pure (.error (toString e))

def files : Files IO where
  kind? path := do pure ((← find path).toOption.map FileTree.kind)
  names _ := pure []
  text path := do pure ((← find path).bind fun t => FileTree.text (some t))

/-- A service that is asked is not reached at its port. -/
def refusal (request : Request) : RemoteError :=
  let asked := request.method.name ++ " " ++ request.url.target
  .transport <| match request.url.portInUse with
    | some port => s!"{asked}: no connection can be made to port {port}"
    | none => asked ++ ": no connection can be made"

end Machine

def machine : World IO where
  files := Machine.files
  getVariable := fun name => IO.getEnv name
  input := do pure (← Machine.readRest (← IO.getStdin) .empty).toList
  fetch := fun request => pure (.error (Machine.refusal request))
  log := fun line => IO.eprintln line

end Fanout

/-- Ends with the exit code of the run. -/
def main (args : List String) : IO UInt32 := do
  let outcome ← Fanout.run Fanout.machine ("perfsense" :: args)
  outcome.notices.forM (IO.eprintln ·)
  IO.print outcome.output
  pure outcome.exitCode
