import Conformance.CommandLine
import Conformance.Run
import Conformance.Table

/-!
# The console

What the program writes to its user, and the status that it ends with: none when every case passed,
one when a case failed, two when the program itself failed.
-/

namespace Conformance

/-- How the program ends. -/
structure Exit where
  code : UInt8
  out : String
  err : String
  deriving Repr, DecidableEq

namespace Console

/-- The name and the version of the program. -/
def versionText : String := "test-manager 0.1.0\n"

/-- How the program is called. -/
def usageText : String := "Usage: test-manager [OPTIONS] [TARGETS]...\n"

/-- A row of the catalogue. -/
structure Listed where
  group : Group
  /-- The number within the group and the case, unless the group has none. -/
  entry : Option (Nat × TestCase)
  deriving Repr, DecidableEq

/-- The rows of a group. -/
def listedGroup (k : Catalogue) (g : Group) : List Listed :=
  match k.casesOf g with
  | [] => [⟨g, none⟩]
  | cases => cases.zipIdx.map fun (c, i) => ⟨g, some (i + 1, c)⟩

/-- The rows of the catalogue. -/
def listed (k : Catalogue) : List Listed := Group.all.flatMap (listedGroup k)

/-- The cells of a row of the catalogue. The name of a group stands in its first row only. -/
def Listed.cells (l : Listed) : List String :=
  match l.entry with
  | none => [l.group.name, "-", "not implemented", ""]
  | some (n, c) => [if n = 1 then l.group.name else "", toString n, c.name, c.id]

/-- The table of the catalogue. -/
def catalogueTable (k : Catalogue) : Table :=
  ⟨["Plugin", "#", "Test case", "Report id"], (listed k).map Listed.cells⟩

/-- The table of results. -/
def resultTable (results : List TestResult) : Table :=
  ⟨["Test case", "Status", "ms", "Message"],
    results.map fun r => [r.testId, r.status.name, "0", r.message]⟩

/-- A sentence about a success. -/
def successLine (s : String) : String := "✅ " ++ s ++ "\n"

/-- A sentence about a failure. -/
def errorLine (s : String) : String := "❌ " ++ s ++ "\n"

/-- A sentence that warns. -/
def warningLine (s : String) : String := "⚠️  " ++ s ++ "\n"

/-- What is shown of an outcome. -/
def outcomeText (o : Outcome) : String :=
  (if o.results.isEmpty then warningLine "No test cases were executed."
    else (resultTable o.results).text ++ "\n")
    ++ "Total: " ++ toString o.total ++ "  Passed: " ++ toString o.passed.length
    ++ "  Failed: " ++ toString o.failed.length ++ "  " ++ durationText ++ "\n"
    ++ "Report: " ++ o.report.page ++ "\n"

/-- How the program ends after a run. -/
def exitOf : Except Failure Outcome → Exit
  | .error e => ⟨2, "", errorLine e.chain⟩
  | .ok o =>
    if o.success then
      ⟨0, outcomeText o ++ successLine ("Build " ++ o.buildName ++ " passed"), ""⟩
    else
      ⟨1, outcomeText o, errorLine ("Build " ++ o.buildName ++ " has " ++ toString o.failed.length
        ++ " failing test case(s)")⟩

variable {σ : Type}

/-- Does what a command line says. -/
def execute (connect : Config → Except TransportError (Transport σ)) (started : Clock)
    (c : CommandLine) (s : Session σ) : Exit × Session σ :=
  match c.effectiveConfig s.files with
  | .error e => (exitOf (.error e), s)
  | .ok config =>
    let (runner, log) := Runner.ofConfig connect config s.files
    let s := s.note log
    match runner with
    | .error e => (exitOf (.error e), s)
    | .ok r =>
      if c.list then (⟨0, (catalogueTable r.catalogue).text ++ "\n", ""⟩, s)
      else
        let (outcome, s) := r.run c.targets started s
        (exitOf outcome, s)

/-- Reads the command line and does what it asks for. -/
def respond (connect : Config → Except TransportError (Transport σ)) (started : Clock)
    (arguments : List String) (environment : String → Option String) (s : Session σ) :
    Exit × Session σ :=
  match CommandLine.read arguments environment with
  | .error e =>
    (⟨2, "", "error: " ++ e.message ++ "\n\n" ++ usageText
      ++ "\nFor more information, try '--help'.\n"⟩, s)
  | .ok .help => (⟨0, usageText, ""⟩, s)
  | .ok .version => (⟨0, versionText, ""⟩, s)
  | .ok (.run c) => execute connect started c s

/-- The program over transports that can always be made. -/
def program (transportOf : Config → Transport σ) (started : Clock) (arguments : List String)
    (environment : String → Option String) (s : Session σ) : Exit × Session σ :=
  respond (fun c => .ok (transportOf c)) started arguments environment s

end Console

end Conformance
