import Conformance.Csv
import Conformance.Failure
import Conformance.Result

/-!
# The sink of results

While a run goes on, its results are kept in memory and, row by row, in a file, so that they
outlive a run that breaks off. `Sink.reset` starts both anew, `Sink.store` adds a result to the file
and then to the lists, and `Sink.readRows` reads the rows back from the file.
-/

namespace Conformance

/-- The results of a run so far, and the path of the file that holds their rows. -/
structure Sink where
  path : String
  /-- The ids of the cases that passed. -/
  passed : List String
  /-- The ids of the cases that failed. -/
  failed : List String
  results : List TestResult
  deriving Repr, DecidableEq

/-- The fields of a row in their order. -/
def Row.fields (r : Row) : List String := [r.testId, r.response, r.status.name, r.message]

namespace Sink

/-- The sink at a path, without results. -/
def new (path : String) : Sink := ⟨path, [], [], []⟩

/-- How many cases ended. -/
def executed (s : Sink) : Nat := s.passed.length + s.failed.length

/-- The record that every file of rows begins with. -/
def header : List String := ["test_id", "response", "status", "message"]

/-- The sink without the results so far. -/
def cleared (s : Sink) : Sink := { s with passed := [], failed := [], results := [] }

/-- The sink with a further result. -/
def add (s : Sink) (r : TestResult) : Sink :=
  match r.status with
  | .pass => { s with passed := s.passed ++ [r.testId], results := s.results ++ [r] }
  | .fail => { s with failed := s.failed ++ [r.testId], results := s.results ++ [r] }

/-- Starts the file anew, and the directories on the way to it that are not there. -/
def start (path : String) (t : FileTree) : Except FileError Unit × FileTree :=
  match t.makeDirectories ((Path.parent? path).getD "") with
  | (.error e, t) => (.error e, t)
  | (.ok (), t) =>
    match t.writeText path (Csv.line header) with
    | .error e => (.error e, t)
    | .ok t => (.ok (), t)

/-- Forgets the results so far and starts the file anew. -/
def reset (s : Sink) (t : FileTree) : Except Failure Unit × Sink × FileTree :=
  let (done, t) := start s.path t
  (done.mapError .file, s.cleared, t)

/-- Appends the row of a result to the file, which has to be there, and adds the result. -/
def store (s : Sink) (r : TestResult) (t : FileTree) : Except Failure Unit × Sink × FileTree :=
  match t.appendText s.path (Csv.line r.row.fields) with
  | .error e => (.error (.file e), s, t)
  | .ok t => (.ok (), s.add r, t)

/-- The sink and the files with a further result, if it can be stored. -/
def record (s : Sink) (r : TestResult) (t : FileTree) : Except Failure (Sink × FileTree) :=
  match s.store r t with
  | (.error e, _) => .error e
  | (.ok (), after) => .ok after

/-- The row with the given number that a record writes. -/
def rowOf (number : Nat) : List String → Except SinkFault Row
  | [testId, response, status, message] =>
    match Status.ofName? status with
    | some s => .ok ⟨testId, response, s, message⟩
    | none => .error (.status number status)
  | fields => .error (.fieldCount number fields.length)

/-- The rows that records write, the first with the given number. -/
def rowsFrom (number : Nat) : List (List String) → Except SinkFault (List Row)
  | [] => .ok []
  | fields :: rest => do
    let row ← rowOf number fields
    let rows ← rowsFrom (number + 1) rest
    .ok (row :: rows)

/-- The rows that a text at a path writes. The first record has to be the header; a text without
records has no rows. -/
def rowsOf (path text : String) : Except SinkFault (List Row) :=
  match Csv.parse text with
  | [] => .ok []
  | first :: rest => if first = header then rowsFrom 1 rest else .error (.header path first)

/-- The rows of the file at a path. -/
def readRows (path : String) (t : FileTree) : Except Failure (List Row) := do
  let text ← (t.readText path).mapError .file
  (rowsOf path text).mapError .sink

end Sink

end Conformance
