import Conformance.Catalogue.Builtin
import Conformance.Catalogue.Loading
import Conformance.Plan
import Conformance.Report
import Conformance.Session
import Conformance.Verdict

/-!
# Runs

A run resolves its targets to a plan, starts the sink anew, executes the cases of the plan one after
the other and writes the report. A case sends its setup requests and then its request;
`TestCase.judge` turns the answer to the request, and nothing else, into the result. Only a failure
of the runner itself ends a run early, and then no report is written.
-/

namespace Conformance

/-- What every run of a runner shares. -/
structure Runner (σ : Type) where
  config : Config
  catalogue : Catalogue
  transport : Transport σ

/-- What came of a run. -/
structure Outcome where
  buildName : String
  started : Clock
  passed : List String
  failed : List String
  results : List TestResult
  report : Report.Paths
  deriving Repr, DecidableEq

/-- How many cases ended. -/
def Outcome.total (o : Outcome) : Nat := o.passed.length + o.failed.length

/-- Did no case fail? -/
def Outcome.success (o : Outcome) : Bool := o.failed.isEmpty

/-! ## One case -/

/-- How the message of a case begins whose request has no response. -/
def invokeFailed : String := "Request invoke failed"

namespace TestCase

/-- The message for a verdict, with the case's own sentence behind it if the case passed. -/
def verdictMessage (c : TestCase) (v : Verdict) : String :=
  match c.passDetail, v.status with
  | some detail, .pass => v.message ++ ". " ++ detail
  | _, _ => v.message

/-- The result without a response. -/
def unanswered (c : TestCase) (label reason : String) : TestResult :=
  ⟨c.id, "", .fail, invokeFailed ++ " via " ++ label ++ ": " ++ reason⟩

/-- Why an answer is no response: an empty text is none. -/
def refusal? : Answer → Option String
  | .ok response => if response = "" then some "empty response" else none
  | .error e => some e.message

/-- The result that an answer to the case's request gives. -/
def judge (c : TestCase) (mode : MatchMode) (label : String) (answer : Answer) : TestResult :=
  match answer with
  | .error e => c.unanswered label e.message
  | .ok response =>
    if response = "" then c.unanswered label "empty response"
    else
      let v := mode.compare response c.expected
      ⟨c.id, response, v.status, c.verdictMessage v⟩

/-- The lines about a result. -/
def resultLog (r : TestResult) : Log := [
  Log.info ("Testcase ID : " ++ r.testId),
  Log.info ("Testcase Output Response : " ++ r.observed),
  Log.info ("Testcase Status : " ++ r.status.name),
  Log.info ("Testcase Message : " ++ r.message)]

/-- The lines about an answer without a response. -/
def refusalLog (c : TestCase) (label : String) (answer : Answer) : Log :=
  match refusal? answer with
  | some reason => [Log.error (label ++ " invoke failed for " ++ c.id ++ ": " ++ reason)]
  | none => []

/-- The line about the answer to a setup request. -/
def setupLog (c : TestCase) : Answer → Log
  | .ok _ => []
  | .error e => [Log.warning ("Setup request for " ++ c.id ++ " failed: " ++ e.message)]

/-- The line that announces the case. -/
def announcement (c : TestCase) : Log :=
  if c.description = "" then [] else [Log.info ("TC Description - " ++ c.description)]

end TestCase

/-- How long something took, as it is shown. The course of a run has no duration of its own, so all
durations show as none. -/
def durationText : String := "(0 ms)"

/-- The line about a case that ended. -/
def TestResult.line (r : TestResult) : LogLine :=
  match r.status with
  | .pass => Log.info ("✓ " ++ r.testId ++ " " ++ durationText)
  | .fail => Log.error ("✗ " ++ r.testId ++ " - " ++ r.message)

namespace Runner

variable {σ : Type}

/-- Sends the setup requests of a case. -/
def sendSetup (r : Runner σ) (c : TestCase) : List String → Session σ → Session σ
  | [], s => s
  | payload :: rest, s =>
    let (answer, s) := s.send r.transport payload
    r.sendSetup c rest (s.note (c.setupLog answer))

/-- Executes a case. -/
def runCase (r : Runner σ) (c : TestCase) (s : Session σ) : TestResult × Session σ :=
  let s := r.sendSetup c c.setup (s.note c.announcement)
  let (answer, s) := s.send r.transport c.request
  let result := c.judge r.config.matchMode r.transport.label answer
  (result, s.note (c.refusalLog r.transport.label answer ++ TestCase.resultLog result))

/-- Executes cases and records their results, up to the first that cannot be recorded. -/
def execute (r : Runner σ) : List TestCase → Sink → Session σ →
    Except Failure Unit × Sink × Session σ
  | [], sink, s => (.ok (), sink, s)
  | c :: rest, sink, s =>
    let (result, s) := r.runCase c s
    let s := s.note [result.line]
    match sink.store result s.files with
    | (.error e, sink, files) => (.error e, sink, s.withFiles files)
    | (.ok (), sink, files) => r.execute rest sink (s.withFiles files)

/-- The line at the start of the execution. -/
def startLine (r : Runner σ) (p : Plan) : LogLine :=
  Log.info ("Running " ++ toString p.cases.length ++ " test(s) against " ++ r.config.endpoint
    ++ " via " ++ r.transport.label ++ " (" ++ r.config.matchMode.name ++ " match)")

/-- The line with the counts. -/
def countLine (sink : Sink) : LogLine :=
  Log.info ("Test Results: " ++ toString sink.passed.length ++ " passed, "
    ++ toString sink.failed.length ++ " failed " ++ durationText)

/-- Executes a plan whose sink was started, and writes the report. -/
def executePlan (r : Runner σ) (p : Plan) (started : Clock) (sink : Sink) (s : Session σ) :
    Except Failure Outcome × Session σ :=
  let s := s.note [r.startLine p, Log.info "***** Test Execution Starts *****"]
  match r.execute p.cases sink s with
  | (.error e, _, s) => (.error e, s)
  | (.ok (), sink, s) =>
    let s := s.note [Log.info "***** Test Execution Ends *****"]
    let (written, files, log) :=
      Report.render sink r.config.outputDir r.config.buildName started s.files
    let s := (s.withFiles files).note log
    match written with
    | .error e => (.error e, s)
    | .ok paths =>
      (.ok ⟨r.config.buildName, started, sink.passed, sink.failed, sink.results, paths⟩,
        s.note [countLine sink])

/-- Runs what the targets select. A selection without a plan leaves everything as it is. -/
def run (r : Runner σ) (targets : List String) (started : Clock) (s : Session σ) :
    Except Failure Outcome × Session σ :=
  let selection := Selection.ofTargets targets
  let s := s.note (Plan.log r.catalogue r.config.groupPolicy selection)
  match Plan.ofSelection r.catalogue r.config.groupPolicy selection with
  | .error e => (.error e, s)
  | .ok p =>
    match (Sink.new r.config.csvPath).reset s.files with
    | (.error e, _, files) => (.error e, s.withFiles files)
    | (.ok (), sink, files) => r.executePlan p started sink (s.withFiles files)

end Runner

/-- The catalogue of a configuration: the built-in suites and those of its directory. -/
def Catalogue.ofConfig (c : Config) (t : FileTree) : Except Failure Catalogue × Log :=
  match c.check with
  | .error flaw => (.error (.config flaw), [])
  | .ok () =>
    match c.suitesDir with
    | none => (.ok .builtin, [])
    | some dir =>
      let l := Catalogue.builtin.loadDirectory t dir
      match l.result with
      | .error e => (.error e, l.log)
      | .ok n =>
        (.ok l.catalogue,
          l.log ++ [Log.info ("Loaded " ++ toString n ++ " suite file(s) from " ++ dir)])

/-- The runner of a configuration. Its transport, which may fail to be made, is made last. -/
def Runner.ofConfig {σ : Type} (connect : Config → Except TransportError (Transport σ))
    (c : Config) (t : FileTree) : Except Failure (Runner σ) × Log :=
  match Catalogue.ofConfig c t with
  | (.error e, log) => (.error e, log)
  | (.ok k, log) =>
    match connect c with
    | .error e => (.error (.config (.channel e.message)), log)
    | .ok transport => (.ok ⟨c, k, transport⟩, log)

end Conformance
