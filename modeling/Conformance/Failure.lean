import Conformance.Config
import Conformance.FileTree
import Conformance.Yaml.Reader

/-!
# Failures

Why the runner itself fails. A host that does not answer, or answers otherwise than expected, is no
failure of the runner but a result.
-/

namespace Conformance

/-- Why the text of a configuration is none. -/
inductive ConfigFault where
  | syntaxError (problem : String) (line column : Nat)
  | mismatch (m : Mismatch) (line column : Nat)
  /-- A setting by name is neither a name nor a table. -/
  | wanted (problem : String) (line column : Nat)
  deriving Repr, DecidableEq

/-- The sentence for a fault, without its place. -/
def ConfigFault.problem : ConfigFault → String
  | .syntaxError p _ _ => p
  | .mismatch m _ _ => m.message
  | .wanted p _ _ => p

/-- Where a fault lies. -/
def ConfigFault.place : ConfigFault → Nat × Nat
  | .syntaxError _ l c => (l, c)
  | .mismatch _ l c => (l, c)
  | .wanted _ l c => (l, c)

/-- The text for a fault: its place on a line of its own, then the sentence. -/
def ConfigFault.message (f : ConfigFault) : String :=
  "TOML parse error at line " ++ toString f.place.1 ++ ", column " ++ toString f.place.2 ++ "\n"
    ++ f.problem ++ "\n"

/-- Why the file of recorded rows cannot be read. -/
inductive SinkFault where
  | header (path : String) (found : List String)
  | fieldCount (row count : Nat)
  | status (row : Nat) (found : String)
  deriving Repr, DecidableEq

/-- The sentence for a fault. -/
def SinkFault.message : SinkFault → String
  | .header path found => "unexpected CSV header in " ++ path ++ ": " ++ Text.quotedList found
  | .fieldCount row count =>
    "row " ++ toString row ++ " has " ++ toString count ++ " fields, expected 4"
  | .status row found => "row " ++ toString row ++ ": unknown test status: " ++ found

/-- Why the runner fails. -/
inductive Failure where
  | file (e : FileError)
  | suite (source : String) (fault : Yaml.Fault)
  | configText (fault : ConfigFault)
  | config (flaw : ConfigFlaw)
  | unknownCase (name : String)
  | duplicateCase (key : String)
  | sink (fault : SinkFault)
  deriving Repr

/-- The sentence for a failure. -/
def Failure.message : Failure → String
  | .file e => "IO error: " ++ e.message
  | .suite source fault => "Suite parse error in " ++ source ++ ": " ++ fault.message
  | .configText fault => "Config parse error: " ++ fault.message
  | .config flaw => "Invalid configuration: " ++ flaw.message
  | .unknownCase name => "Test case not found: " ++ name
  | .duplicateCase key => "Test case defined twice: " ++ key
  | .sink fault => "Report error: " ++ fault.message

/-- The sentence for a failure, followed by that for its cause if that is a failure of its own. -/
def Failure.chain (f : Failure) : String :=
  match f with
  | .file e => f.message ++ ": " ++ e.chain
  | .configText fault => f.message ++ ": " ++ fault.message
  | _ => f.message

end Conformance
