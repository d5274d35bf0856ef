import Fanout.Analysis.Result

/-!
# Reports of a scan

* `FileReport` : a file and its result;
* `Summary` : how many issues of each severity, and how many files;
* `ScanReport.ofFiles` : the reports of files with their summary.
-/

namespace Fanout
open Json

structure FileReport where
  file : String
  result : Result
  deriving Repr, Inhabited

structure Summary where
  critical : Nat := 0
  warnings : Nat := 0
  infos : Nat := 0
  files : Nat := 0
  deriving Repr, DecidableEq, Inhabited

structure ScanReport where
  files : List FileReport
  summary : Summary
  deriving Repr, Inhabited

namespace Summary

def add (s : Summary) (i : Issue) : Summary :=
  match i.severity with
  | .critical => { s with critical := s.critical + 1 }
  | .warning => { s with warnings := s.warnings + 1 }
  | .info => { s with infos := s.infos + 1 }

def ofFiles (files : List FileReport) : Summary :=
  files.foldl (fun s f => f.result.issues.foldl add s) { files := files.length }

end Summary

def ScanReport.ofFiles (files : List FileReport) : ScanReport := ⟨files, .ofFiles files⟩

def FileReport.toJson (f : FileReport) : Json := .object (("file", .string f.file) :: f.result.fields)

def Summary.toJson (s : Summary) : Json :=
  .object
    [("critical", ofNat s.critical), ("warnings", ofNat s.warnings), ("infos", ofNat s.infos),
      ("files", ofNat s.files)]

def ScanReport.toJson (r : ScanReport) : Json :=
  .object [("files", .array (r.files.map FileReport.toJson)), ("summary", r.summary.toJson)]

end Fanout
