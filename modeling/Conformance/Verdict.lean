import Conformance.Choice
import Conformance.Json.Reader
import Conformance.Result

/-!
# Verdicts

Whether a response is the one that is expected. Character by character any two texts can be
compared; as JSON, both have to be documents, and the expected one is read first.
-/

namespace Conformance

/-- What a comparison says. -/
inductive Verdict where
  | equal
  | different
  /-- The response is no JSON document. -/
  | responseNotJson
  /-- The expected response is no JSON document. -/
  | expectedNotJson (problem : String)
  deriving Repr, DecidableEq

namespace Verdict

/-- The status that a verdict gives a case. -/
def status : Verdict → Status
  | .equal => .pass
  | _ => .fail

/-- The sentence for a verdict. -/
def message : Verdict → String
  | .equal => "Output response is matching with expected one"
  | .different => "Output response is different from expected one"
  | .responseNotJson => "Output response is different from expected one (not valid JSON)"
  | .expectedNotJson problem => "Expected response is not valid JSON: " ++ problem

/-- The verdict on whether two things are the same. -/
def ofEqual (same : Bool) : Verdict := if same then .equal else .different

end Verdict

/-- Compares a response with the expected one. -/
def MatchMode.compare (mode : MatchMode) (observed expected : String) : Verdict :=
  match mode with
  | .exact => .ofEqual (observed == expected)
  | .json =>
    match Json.read expected with
    | .error f => .expectedNotJson (f.message expected)
    | .ok e =>
      match Json.read observed with
      | .error _ => .responseNotJson
      | .ok o => .ofEqual (decide (Json.Agrees o e))

end Conformance
