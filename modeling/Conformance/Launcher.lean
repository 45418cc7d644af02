import Conformance.FileTree

/-!
# Programs of a host

A launcher starts programs. What they do is up to the host: a launcher may answer a call by any end
and any bytes, and it keeps a state of its own from one call to the next.
-/

namespace Conformance

/-- Why a process does not start. -/
inductive SpawnError where
  /-- The program or an argument holds a NUL. -/
  | nulInData
  | argumentTooLong
  | unknownFormat
  | file (e : FileError)
  deriving Repr, DecidableEq

/-- The sentence for an error. -/
def SpawnError.message : SpawnError → String
  | .nulInData => "nul byte found in provided data"
  | .argumentTooLong => "Argument list too long (os error 7)"
  | .unknownFormat => "Exec format error (os error 8)"
  | .file e => e.message

/-- How a process ended and what it wrote. -/
structure Ended where
  /-- The status; none if a signal ended the process. -/
  code : Option Int
  out : ByteArray
  err : ByteArray

/-- What a call of a program leads to. -/
structure Launch (σ : Type) where
  /-- How the program ended, or why it did not start. -/
  ended : Except SpawnError Ended
  /-- The state of the host afterwards. -/
  state : σ
  /-- The files afterwards. -/
  files : FileTree

/-- Starts a program with arguments and waits for its end. -/
abbrev Launcher (σ : Type) := String → List String → σ → FileTree → Launch σ

end Conformance
