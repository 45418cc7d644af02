/-!
# Choices

Settings with a few named values. A name is recognised in any case of its ASCII letters.
-/

namespace Conformance

/-- A text that names none of the values of a setting. -/
structure UnknownChoice where
  given : String
  known : List String
  deriving Repr, DecidableEq

/-- The sentence for a text that names no value. -/
def UnknownChoice.message (e : UnknownChoice) : String :=
  "unknown value '" ++ e.given ++ "' (expected one of: " ++ ", ".intercalate e.known ++ ")"

/-- The value that a text names. -/
def choose {α : Type} (values : List (String × α)) (text : String) : Except UnknownChoice α :=
  let given := text.map Char.toLower
  match values.find? (·.1 == given) with
  | some (_, v) => .ok v
  | none => .error ⟨given, values.map (·.1)⟩

/-- How requests reach the host. -/
inductive Channel where
  /-- A process for each request. -/
  | curl
  /-- A client within the runner. -/
  | http
  deriving Repr, DecidableEq, Inhabited

/-- How a response is compared with the expected one. -/
inductive MatchMode where
  /-- Character by character. -/
  | exact
  /-- As JSON documents. -/
  | json
  deriving Repr, DecidableEq, Inhabited

/-- What to run when several groups are named. -/
inductive GroupPolicy where
  /-- The first group that has cases. -/
  | first
  /-- All of them. -/
  | union
  deriving Repr, DecidableEq, Inhabited

/-- The channels by name. -/
def Channel.values : List (String × Channel) := [("curl", .curl), ("http", .http)]

/-- The modes by name. -/
def MatchMode.values : List (String × MatchMode) := [("exact", .exact), ("json", .json)]

/-- The policies by name. -/
def GroupPolicy.values : List (String × GroupPolicy) := [("first", .first), ("union", .union)]

/-- The name of a channel. -/
def Channel.name : Channel → String
  | .curl => "curl"
  | .http => "http"

/-- The name of a mode. -/
def MatchMode.name : MatchMode → String
  | .exact => "exact"
  | .json => "json"

/-- The name of a policy. -/
def GroupPolicy.name : GroupPolicy → String
  | .first => "first"
  | .union => "union"

end Conformance
