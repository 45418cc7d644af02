import Conformance.Log
import Conformance.Page
import Conformance.Sink
import Conformance.Summary

/-!
# Writing the report

At the end of a run its page and its summary are written into one directory. `Report.render` reads
the rows for both from the file of the sink, so what they show is what was recorded there.
-/

namespace Conformance.Report

/-- Writes a file into a directory, which is made if it is not there, and answers the file's path.
-/
def writeInto (dir name text : String) (t : FileTree) : Except Failure String × FileTree :=
  let path := Path.join dir name
  match t.makeDirectories dir with
  | (.error e, t) => (.error (.file e), t)
  | (.ok (), t) =>
    match t.writeText path text with
    | .error e => (.error (.file e), t)
    | .ok t => (.ok path, t)

/-- Writes the page. -/
def writePage (r : RunReport) (dir : String) (t : FileTree) : Except Failure String × FileTree :=
  writeInto dir r.pageName r.page t

/-- Writes the summary. -/
def writeSummary (r : RunReport) (dir : String) (t : FileTree) : Except Failure String × FileTree :=
  writeInto dir RunReport.summaryName r.summaryText t

/-- The paths of a report's files. -/
structure Paths where
  page : String
  summary : String
  deriving Repr, DecidableEq

/-- What the report of a run shows. -/
def collect (s : Sink) (buildName : String) (started : Clock) (t : FileTree) :
    Except Failure RunReport := do
  let rows ← Sink.readRows s.path t
  return ⟨buildName, started, rows, s.passed, s.failed⟩

/-- The line about the page. -/
def pageLine (path : String) : LogLine := Log.info ("HTML report written to: " ++ path)

/-- The line about the summary. -/
def summaryLine (path : String) : LogLine := Log.info ("Results written to: " ++ path)

/-- Writes the page and then the summary; neither if the rows cannot be read. -/
def render (s : Sink) (dir buildName : String) (started : Clock) (t : FileTree) :
    Except Failure Paths × FileTree × Log :=
  match collect s buildName started t with
  | .error e => (.error e, t, [])
  | .ok r =>
    match writePage r dir t with
    | (.error e, t) => (.error e, t, [])
    | (.ok page, t) =>
      match writeSummary r dir t with
      | (.error e, t) => (.error e, t, [pageLine page])
      | (.ok summary, t) => (.ok ⟨page, summary⟩, t, [pageLine page, summaryLine summary])

end Conformance.Report
