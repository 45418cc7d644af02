import Conformance.Shell.Octets

/-!
# Signals

A process can be sent a signal, by its number or its name. Most signals end a process that has no
script for them; the shell that waits for the process then writes what the signal means.
-/

namespace Conformance.Shell

/-- A signal. -/
structure Signal where
  number : Nat
  name : String
  /-- What the signal means. -/
  meaning : String
  deriving Repr, DecidableEq

namespace Signal

/-- The signals. -/
def all : List Signal := [
  ⟨1, "HUP", "Hangup"⟩, ⟨2, "INT", "Interrupt"⟩, ⟨3, "QUIT", "Quit"⟩,
  ⟨4, "ILL", "Illegal instruction"⟩, ⟨5, "TRAP", "Trace/breakpoint trap"⟩, ⟨6, "ABRT", "Aborted"⟩,
  ⟨7, "BUS", "Bus error"⟩, ⟨8, "FPE", "Floating point exception"⟩, ⟨9, "KILL", "Killed"⟩,
  ⟨10, "USR1", "User defined signal 1"⟩, ⟨11, "SEGV", "Segmentation fault"⟩,
  ⟨12, "USR2", "User defined signal 2"⟩, ⟨13, "PIPE", "Broken pipe"⟩, ⟨14, "ALRM", "Alarm clock"⟩,
  ⟨15, "TERM", "Terminated"⟩, ⟨16, "STKFLT", "Stack fault"⟩, ⟨17, "CHLD", "Child exited"⟩,
  ⟨18, "CONT", "Continued"⟩, ⟨19, "STOP", "Stopped (signal)"⟩, ⟨20, "TSTP", "Stopped"⟩,
  ⟨21, "TTIN", "Stopped (tty input)"⟩, ⟨22, "TTOU", "Stopped (tty output)"⟩,
  ⟨23, "URG", "Urgent I/O condition"⟩, ⟨24, "XCPU", "CPU time limit exceeded"⟩,
  ⟨25, "XFSZ", "File size limit exceeded"⟩, ⟨26, "VTALRM", "Virtual timer expired"⟩,
  ⟨27, "PROF", "Profiling timer expired"⟩, ⟨28, "WINCH", "Window changed"⟩,
  ⟨29, "IO", "I/O possible"⟩, ⟨30, "PWR", "Power failure"⟩, ⟨31, "SYS", "Bad system call"⟩]

/-- The signal with a number. -/
def ofNumber? (n : Nat) : Option Signal := all.find? (·.number = n)

/-- The signal with a number or a name, whose letters may be small. Zero is no signal that is sent.
-/
def ofText? (s : Octets) : Option (Option Signal) :=
  if s = ['0'] then some none
  else
    let capitals := s.map Char.toUpper
    (all.find? fun x => (toString x.number).toList = s || x.name.toList = capitals).map some

/-- Does the signal leave a process as it is? -/
def isHarmless (x : Signal) : Bool :=
  ["CHLD", "CONT", "STOP", "TSTP", "TTIN", "TTOU", "URG", "WINCH"].contains x.name

/-- Does the shell write what the signal means? -/
def isReported (x : Signal) : Bool := x.name != "INT" && x.name != "PIPE"

end Signal

end Conformance.Shell
