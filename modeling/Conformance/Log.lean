/-!
# Log

The lines that the runner writes while it works. They are values: an operation answers the lines
that it adds, oldest first.
-/

namespace Conformance

/-- How much a line matters. -/
inductive Level where
  | info
  | warning
  | error
  deriving Repr, DecidableEq

/-- The word for a level. -/
def Level.name : Level → String
  | .info => "INFO"
  | .warning => "WARN"
  | .error => "ERROR"

/-- One line of the log. -/
structure LogLine where
  level : Level
  text : String
  deriving Repr, DecidableEq

/-- Lines, oldest first. -/
abbrev Log := List LogLine

namespace Log

/-- A line about the course of a run. -/
def info (text : String) : LogLine := ⟨.info, text⟩

/-- A line about something that may be a mistake. -/
def warning (text : String) : LogLine := ⟨.warning, text⟩

/-- A line about something that went wrong. -/
def error (text : String) : LogLine := ⟨.error, text⟩

end Log

/-- The line as it is written. -/
def LogLine.render (l : LogLine) : String := l.level.name ++ " " ++ l.text

end Conformance
