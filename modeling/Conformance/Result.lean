import Conformance.Clock

/-!
# Results

What came of a test case, and the row that records it.
-/

namespace Conformance

/-- How a test case ended. -/
inductive Status where
  | pass
  | fail
  deriving Repr, DecidableEq, Inhabited

/-- The word for a status. -/
def Status.name : Status → String
  | .pass => "Pass"
  | .fail => "Fail"

/-- The status with exactly the given word. -/
def Status.ofName? (s : String) : Option Status :=
  if s = "Pass" then some .pass else if s = "Fail" then some .fail else none

/-- The sentence for a text that is the word of no status. -/
def Status.unknown (s : String) : String := "unknown test status: " ++ s

theorem Status.ofName?_name (s : Status) : Status.ofName? s.name = some s := by cases s <;> rfl

/-- What came of one test case. -/
structure TestResult where
  testId : String
  /-- The response, empty if there was none. -/
  observed : String
  status : Status
  message : String
  deriving Repr, DecidableEq, Inhabited

/-- A result as it is recorded. -/
structure Row where
  testId : String
  response : String
  status : Status
  message : String
  deriving Repr, DecidableEq, Inhabited

/-- The row that records a result. -/
def TestResult.row (r : TestResult) : Row := ⟨r.testId, r.observed, r.status, r.message⟩

/-- All that the page and the summary show of a run. -/
structure RunReport where
  buildName : String
  started : Clock
  rows : List Row
  passed : List String
  failed : List String
  deriving Repr, DecidableEq

/-- How many test cases ended. -/
def RunReport.total (r : RunReport) : Nat := r.passed.length + r.failed.length

end Conformance
