import Conformance.FileTree
import Conformance.Shell.Command
import Conformance.Shell.Signal

/-!
# State of a script

What a script can read and change while it runs. Its channels lead into numbered buffers, of which
the first two are what it writes in the end, or into files.
-/

namespace Conformance.Shell

/-- Where a channel leads. -/
inductive Target where
  | buffer (n : Nat)
  | nowhere
  | file (path : String)
  deriving Repr, DecidableEq

/-- What comes after a command. -/
inductive Flow where
  | next
  | leaves (levels : Nat)
  | continues (levels : Nat)
  | returns
  | exits
  /-- A signal ended the script with the number of its process. -/
  | killed (process : Nat) (signal : Signal)
  deriving Repr, DecidableEq

/-- The state of a script. -/
structure State where
  /-- The name that the script was called by. -/
  name : Octets
  args : List Octets
  files : FileTree
  bindings : List (Octets × Octets) := []
  functions : List (Octets × Command) := []
  status : Nat := 0
  input : Octets := []
  buffers : List Octets := [[], []]
  channels : List (Nat × Target) := [(1, .buffer 0), (2, .buffer 1)]
  flow : Flow := .next
  /-- Does the first failure end the script? -/
  strict : Bool := false
  /-- Does a variable without a value end the script? -/
  careful : Bool := false
  /-- Is each program written before it runs? -/
  traced : Bool := false
  /-- Do the marks of patterns stand for themselves? -/
  literal : Bool := false
  /-- The variables that programs get to see. -/
  exported : List Octets := []
  /-- The variables whose values stay as they are. -/
  constants : List Octets := []
  /-- In a function, the variables that get their values back at its end. -/
  locals : Option (List (Octets × Option Octets)) := none
  /-- How many loops run one within the other. -/
  loops : Nat := 0
  /-- The argument that the reader of options has come to, and how many of its characters it has
  read. -/
  options : Nat × Nat := (1, 0)
  /-- The number of the script's process. -/
  process : Nat := 4242
  /-- The numbers of the processes that began it, the latest first. -/
  ancestors : List Nat := []
  /-- The signal that ended the last program, until the shell has reported it. -/
  signal : Option Signal := none
  /-- The scripts that run at signals, by their names; `EXIT` stands for the end of the script. -/
  traps : List (Octets × Octets) := []
  /-- The line of the program that runs. -/
  line : Nat := 1

namespace State

/-- Where a channel leads. -/
def target (s : State) (channel : Nat) : Target :=
  ((s.channels.find? (·.1 = channel)).map (·.2)).getD .nowhere

/-- Makes a channel lead elsewhere. -/
def lead (s : State) (channel : Nat) (t : Target) : State :=
  { s with channels := (channel, t) :: s.channels.filter (·.1 ≠ channel) }

/-- What a buffer holds. -/
def buffered (s : State) (n : Nat) : Octets := s.buffers[n]?.getD []

/-- Writes to a channel. -/
def write (s : State) (channel : Nat) (text : Octets) : State :=
  match s.target channel with
  | .nowhere => s
  | .buffer n => { s with buffers := s.buffers.modify n (· ++ text) }
  | .file path =>
    match s.files.append path (Octets.toBytes text) with
    | .ok files => { s with files := files }
    | .error _ => s

/-- The value of a variable. -/
def valueOf? (s : State) (name : Octets) : Option Octets :=
  (s.bindings.find? (·.1 = name)).map (·.2)

/-- The characters that divide values into fields. -/
def separators (s : State) : Octets := (s.valueOf? "IFS".toList).getD " \t\n".toList

/-- The value of a parameter, as one text. -/
def parameter? (s : State) (name : Octets) : Option Octets :=
  match name with
  | ['@'] => if s.args.isEmpty then none else some ([' '].intercalate s.args)
  | ['*'] => if s.args.isEmpty then none else some ((s.separators.take 1).intercalate s.args)
  | ['#'] => some (Octets.ofInt s.args.length)
  | ['?'] => some (Octets.ofInt s.status)
  | ['$'] => some (Octets.ofInt s.process)
  | ['!'] => none
  | ['-'] => some []
  | ['0'] => some s.name
  | name =>
    if name.all Char.isDigit then
      s.args[(String.ofList name).toNat?.getD 0 - 1]?
    else s.valueOf? name

/-- Complains about the program that runs, in its line. -/
def complain (s : State) (reason : String) : State :=
  s.write 2 (s.name ++ Octets.ofText (": " ++ toString s.line ++ ": " ++ reason ++ "\n"))

/-- The state with another status. -/
def withStatus (s : State) (n : Nat) : State := { s with status := n }

/-- Ends a script that ends at its first failure, if the last command failed. -/
def checked (s : State) : State :=
  if s.strict && s.status ≠ 0 && s.flow = .next then { s with flow := .exits } else s

/-- Complains, and ends the script. -/
def gives (s : State) (reason : String) : State :=
  { (s.complain reason).withStatus 2 with flow := .exits }

/-- Gives a variable a value, or takes it away. -/
def setTo (s : State) (name : Octets) (value : Option Octets) : State :=
  { s with bindings := (value.map fun v => (name, v)).toList ++ s.bindings.filter (·.1 ≠ name) }

/-- Gives a variable a value. A variable whose value stays as it is ends the script. -/
def assign (s : State) (name value : Octets) : State :=
  if s.constants.contains name then s.gives (Octets.toText name ++ ": is read only")
  else s.setTo name (some value)

/-- What a subshell leaves behind in the shell that began it. -/
def leave (parent child : State) : State :=
  { parent with
    files := { child.files with home := parent.files.home }
    buffers := child.buffers
    input := child.input
    status := child.status
    signal := child.signal
    flow := match child.flow with
      | .killed p x => .killed p x
      | _ => parent.flow }

/-- Did a signal end the script? -/
def isKilled (s : State) : Bool :=
  match s.flow with
  | .killed .. => true
  | _ => false

/-- Reports the signal that ended the last program. -/
def report (s : State) : State :=
  match s.signal with
  | none => s
  | some x =>
    let s := { s with signal := none }
    if x.isReported then s.write 2 (Octets.ofText (x.meaning ++ "\n")) else s

/-- Adds an empty buffer and makes the standard output lead into it; answers its number. -/
def capture (s : State) : Nat × State :=
  (s.buffers.length, { s with buffers := s.buffers ++ [[]] }.lead 1 (.buffer s.buffers.length))

end State

end Conformance.Shell
