import Conformance.Result

/-!
# The page of a run

A page for a browser with the counts, the failed cases and a row for each case. It is a list of
pieces: what is fixed stands as it is, and so do times and numbers. All other texts of the run are
data, in which the characters that mean something in markup are escaped.
-/

namespace Conformance

/-- A piece of a page. -/
inductive Piece where
  | fixed (s : String)
  | data (s : String)
  /-- A time or a number of the run. -/
  | bare (s : String)
  deriving Repr, DecidableEq

/-- How a character of the data is written. -/
def escapeMarkup (c : Char) : List Char :=
  if c = '&' then "&amp;".toList
  else if c = '<' then "&lt;".toList
  else if c = '>' then "&gt;".toList
  else if c = '"' then "&quot;".toList
  else if c = '\'' then "&#39;".toList
  else [c]

namespace Piece

/-- The text of a piece. -/
def render : Piece → List Char
  | .fixed s => s.toList
  | .data s => s.toList.flatMap escapeMarkup
  | .bare s => s.toList

end Piece

/-- Lines, each with its end. -/
def fixedLines (lines : List String) : Piece := .fixed (String.join (lines.map (· ++ "\n")))

namespace RunReport

/-- The rules for the look of the page. -/
def styleLines : List String := [
  "      body \x7b font-family: ui-sans-serif, system-ui, -apple-system, Segoe UI, Roboto, Helvetica,"
    ++ " Arial; padding: 18px; \x7d",
  "      table \x7b border-collapse: collapse; width: 100%; \x7d",
  "      th, td \x7b border: 1px solid #d1d5db; padding: 6px 8px; text-align: left;"
    ++ " vertical-align: top; \x7d",
  "      th \x7b background: #111827; color: #fff; \x7d",
  "      tr.pass td:nth-child(4) \x7b color: #15803d; font-weight: bold; \x7d",
  "      tr.fail td:nth-child(4) \x7b color: #b91c1c; font-weight: bold; \x7d",
  "      code \x7b word-break: break-all; \x7d",
  "      .summary span \x7b margin-right: 18px; \x7d"]

/-- The page up to the heading. -/
def headPieces (r : RunReport) : List Piece := [
  fixedLines ["<!doctype html>", "<html>", "  <head>", "    <meta charset=\"utf-8\" />"],
  .fixed "    <title>", .data r.buildName, .fixed " - HAL Mock Test Report</title>\n",
  fixedLines (["    <style>"] ++ styleLines ++ ["    </style>", "  </head>", "  <body>",
    "    <h1>HAL Mock Test Report</h1>"])]

/-- The build, the time and the counts. -/
def countPieces (r : RunReport) : List Piece := [
  .fixed "    <p>Build: <b>", .data r.buildName,
  .fixed "</b><br />Executed: <b>", .bare r.started.plain, .fixed "</b></p>\n",
  .fixed "    <p class=\"summary\"><span>Total: <b>", .bare (toString r.total),
  .fixed "</b></span><span>Passed: <b>", .bare (toString r.passed.length),
  .fixed "</b></span><span>Failed: <b>", .bare (toString r.failed.length),
  .fixed "</b></span></p>\n"]

/-- The list of failed cases. -/
def failedPieces : List String → List Piece
  | [] => [.fixed "<p>None</p>"]
  | ids =>
    .fixed "<ul>" :: ids.flatMap (fun id => [.fixed "<li>", .data id, .fixed "</li>"])
      ++ [.fixed "</ul>"]

/-- The class of a row with a status. -/
def className : Status → String
  | .pass => "pass"
  | .fail => "fail"

/-- The row with the given number. -/
def rowPieces (number : Nat) (r : Row) : List Piece := [
  .fixed ("      <tr class=\"" ++ className r.status ++ "\"><td>"), .bare (toString number),
  .fixed "</td><td>", .data r.testId,
  .fixed "</td><td><code>", .data r.response,
  .fixed ("</code></td><td>" ++ r.status.name ++ "</td><td>"), .data r.message,
  .fixed "</td></tr>\n"]

/-- The rows, the first with the given number. -/
def tablePieces (number : Nat) : List Row → List Piece
  | [] => []
  | r :: rest => rowPieces number r ++ tablePieces (number + 1) rest

/-- The pieces of the page. -/
def pieces (r : RunReport) : List Piece :=
  r.headPieces ++ r.countPieces
    ++ [.fixed "    <h2>Failed test cases</h2>\n    "] ++ failedPieces r.failed
    ++ [fixedLines ["", "    <h2>Results</h2>", "    <table>",
      "      <tr><th>#</th><th>Test case</th><th>Response</th><th>Status</th><th>Message</th></tr>"]]
    ++ tablePieces 1 r.rows
    ++ [fixedLines ["    </table>", "  </body>", "</html>"]]

/-- The text of the page. -/
def page (r : RunReport) : String := String.ofList (r.pieces.flatMap Piece.render)

/-- The name of the page's file. -/
def pageName (r : RunReport) : String := r.buildName ++ "_" ++ r.started.compact ++ ".html"

end RunReport

end Conformance
