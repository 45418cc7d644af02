import Conformance.Log
import Conformance.Transport

/-!
# Sessions

What changes while requests are sent: the files, the state of the transport, the requests sent so
far and the log.
-/

namespace Conformance

/-- The state of the world around a run. -/
structure Session (σ : Type) where
  files : FileTree
  /-- The state of the transport. -/
  remote : σ
  /-- The requests sent so far, oldest first. -/
  sent : List String
  log : Log

namespace Session

variable {σ : Type}

/-- A session that begins with the given files and state. -/
def start (files : FileTree) (remote : σ) : Session σ := ⟨files, remote, [], []⟩

/-- Adds lines to the log. -/
def note (lines : Log) (s : Session σ) : Session σ := { s with log := s.log ++ lines }

/-- Puts other files in the place of those of the session. -/
def withFiles (files : FileTree) (s : Session σ) : Session σ := { s with files := files }

/-- Sends a request. -/
def send (t : Transport σ) (payload : String) (s : Session σ) : Answer × Session σ :=
  let e := t.send payload s.remote s.files
  (e.answer, { s with files := e.files, remote := e.state, sent := s.sent ++ [payload] })

@[simp] theorem sent_note (lines : Log) (s : Session σ) : (s.note lines).sent = s.sent := rfl

@[simp] theorem sent_withFiles (files : FileTree) (s : Session σ) :
    (s.withFiles files).sent = s.sent := rfl

@[simp] theorem sent_send (t : Transport σ) (payload : String) (s : Session σ) :
    (s.send t payload).2.sent = s.sent ++ [payload] := rfl

end Session

end Conformance
