import Conformance.FileTree

/-!
# Transports

How a request reaches the host and what comes back. A transport has a state of its own, and what it
does may change files. A failure to answer is a value like an answer: it decides what is recorded of
a test case and never ends a run.
-/

namespace Conformance

/-- Why a request has no response. -/
inductive TransportError where
  | spawn (program reason : String)
  /-- A process ended with another status than zero, or without one because of a signal. -/
  | exit (program : String) (code : Option Int) (stderr : String)
  | http (reason : String)
  | notText
  deriving Repr, DecidableEq

/-- The sentence for an error. -/
def TransportError.message : TransportError → String
  | .spawn program reason => "failed to spawn " ++ program ++ ": " ++ reason
  | .exit program code stderr =>
    program ++ " exited with status "
      ++ (match code with
        | some n => "Some(" ++ toString n ++ ")"
        | none => "None")
      ++ ": " ++ stderr
  | .http reason => "HTTP request failed: " ++ reason
  | .notText => "response is not valid UTF-8"

/-- A response, or why there is none. -/
abbrev Answer := Except TransportError String

/-- What a request leads to. -/
structure Exchange (σ : Type) where
  answer : Answer
  /-- The state of the transport afterwards. -/
  state : σ
  /-- The files afterwards. -/
  files : FileTree

/-- A way to send requests. -/
structure Transport (σ : Type) where
  /-- The name of the transport in messages. -/
  label : String
  /-- Sends a request. -/
  send : String → σ → FileTree → Exchange σ

/-- The text without one line feed at its end, or one carriage return and line feed. -/
def stripLineEnd (s : String) : String :=
  match s.toList.reverse with
  | '\n' :: '\r' :: rest => String.ofList rest.reverse
  | '\n' :: rest => String.ofList rest.reverse
  | _ => s

end Conformance
