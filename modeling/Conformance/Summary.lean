import Conformance.Json.Printer
import Conformance.Result

/-!
# The summary of a run

What came of a run as a JSON document, for other programs.
-/

namespace Conformance

/-- The members of a row. -/
def Row.summary (r : Row) : Json :=
  .object [("test_id", .string r.testId), ("response", .string r.response),
    ("status", .string r.status.name), ("message", .string r.message)]

namespace RunReport

/-- The summary as a document. -/
def summary (r : RunReport) : Json :=
  .object [("build_name", .string r.buildName),
    ("started_at", .string r.started.internet),
    ("rows", .array (r.rows.map Row.summary)),
    ("passed", .array (r.passed.map .string)),
    ("failed", .array (r.failed.map .string))]

/-- The text of the summary. -/
def summaryText (r : RunReport) : String := r.summary.pretty

/-- The name of the summary's file. -/
def summaryName : String := "test-results.json"

end RunReport

end Conformance
