import Conformance.Launcher
import Conformance.Text.Blank
import Conformance.Text.Utf8
import Conformance.Transport

/-!
# Requests by processes

Each request is one call of a program like `curl`, whose output is the response. What the process
wrote counts only if it ended with status zero and wrote text; one line end at its end is left out.
What starts the program is a parameter.
-/

namespace Conformance.Curl

/-- The arguments of the program for a request. A time limit is given in whole seconds, at least
one. -/
def arguments (endpoint : String) (timeoutMs : Option Nat) (payload : String) : List String :=
  ["--silent", "--header", "Content-Type: application/json", "--request", "POST"]
    ++ (match timeoutMs with
      | some ms => ["--max-time", toString (max (ms / 1000) 1)]
      | none => [])
    ++ ["-d", payload, endpoint]

/-- The answer that a process gives that ended. -/
def answerOf (program : String) (e : Ended) : Answer :=
  if e.code = some 0 then
    match Text.decode? e.out with
    | some text => .ok (stripLineEnd text)
    | none => .error .notText
  else .error (.exit program e.code (Text.trim (Text.decodeLossy e.err)))

/-- The answer that a call of the program gives. -/
def answer (program : String) : Except SpawnError Ended → Answer
  | .ok e => answerOf program e
  | .error e => .error (.spawn program e.message)

end Conformance.Curl

namespace Conformance

/-- The transport that runs a program for each request. -/
def Transport.curl {σ : Type} (launch : Launcher σ) (program endpoint : String)
    (timeoutMs : Option Nat) : Transport σ where
  label := "curl"
  send payload state files :=
    let l := launch program (Curl.arguments endpoint timeoutMs payload) state files
    ⟨Curl.answer program l.ended, l.state, l.files⟩

end Conformance
