import Conformance.Shell.Field
import Conformance.Shell.State
import Conformance.Shell.Utility

/-!
# Programs of the shell

The programs that a script can only run because they are part of the shell: they change the
variables, the arguments, the signals that scripts wait for, or the way in which the script goes on.
A special one of them ends the script where it fails.
-/

namespace Conformance.Shell

/-! ## Names -/

/-- The other programs of the shell. -/
def regularPrograms : List String :=
  ["[", "alias", "bg", "cd", "chdir", "command", "echo", "false", "fg", "getopts", "hash", "jobs",
    "kill", "printf", "pwd", "read", "test", "true", "type", "ulimit", "umask", "unalias", "wait"]

/-- The place of a program that every host has. -/
def hostPlace? (name : Octets) : Option Octets :=
  if hostPrograms.contains (String.ofList name) then some ("/usr/bin/".toList ++ name) else none

/-- Is the path that of a file that may be run? -/
def isRunnable (files : FileTree) (path : Octets) : Bool :=
  match files.find (Octets.toText path) with
  | .ok (_, .file _ x) => x
  | _ => false

/-- Says what runs under each of some names. -/
def describe (s : State) (names : List Octets) : State :=
  names.foldl (fun s n =>
    let name := String.ofList n
    let is (what : String) : State := s.write 1 (n ++ Octets.ofText (" is " ++ what ++ "\n"))
    if reservedWords.contains name then is "a shell keyword"
    else if s.functions.any (·.1 = n) then is "a shell function"
    else if specialPrograms.contains name then is "a special shell builtin"
    else if regularPrograms.contains name then is "a shell builtin"
    else
      match hostPlace? n with
      | some p => is (Octets.toText p)
      | none =>
        if n.contains '/' && isRunnable s.files n then is (Octets.toText n)
        else (s.write 1 (n ++ Octets.ofText ": not found\n")).withStatus 127) (s.withStatus 0)

/-- Says in one word what runs under a name. -/
def resolve (s : State) (n : Octets) : State :=
  let name := String.ofList n
  if reservedWords.contains name || s.functions.any (·.1 = n) || specialPrograms.contains name
      || regularPrograms.contains name || (n.contains '/' && isRunnable s.files n) then
    (s.write 1 (n ++ ['\n'])).withStatus 0
  else
    match hostPlace? n with
    | some p => (s.write 1 (p ++ ['\n'])).withStatus 0
    | none => s.withStatus 127

/-! ## Signals -/

/-- Complains about a program of the shell that goes on. -/
def refuses (s : State) (status : Nat) (reason : String) : State :=
  (s.complain reason).withStatus status

/-- What `kill` is asked for: a signal that is sent to processes, or the name of a signal. -/
inductive KillRequest where
  | send (signal : Option Signal) (processes : List Octets)
  | name (numbers : List Octets)
  | invalid (reason : String)

/-- Reads the arguments of `kill`. -/
def KillRequest.ofArgs : List Octets → KillRequest
  | [] => usage
  | ['-', 'l'] :: rest => .name rest
  | ['-', 's'] :: rest =>
    match rest with
    | [] => .invalid "No arg for -s option"
    | n :: processes =>
      match Signal.ofText? n with
      | none => .invalid ("invalid signal number or name: " ++ Octets.toText n)
      | some signal => send signal processes
  | ['-', '-'] :: rest => send (Signal.ofNumber? 15) rest
  | ('-' :: c :: n) :: rest =>
    match Signal.ofText? (c :: n) with
    | none => .invalid ("Illegal option -" ++ String.singleton c)
    | some signal => send signal rest
  | rest => send (Signal.ofNumber? 15) rest
where
  /-- How `kill` is called. -/
  usage : KillRequest := .invalid
    "Usage: kill [-s sigspec | -signum | -sigspec] [pid | job]... or\nkill -l [exitstatus]"
  /-- A signal for processes, at least one. -/
  send (signal : Option Signal) (processes : List Octets) : KillRequest :=
    if processes.isEmpty then usage else .send signal processes

/-- The script that runs in the state at a signal. -/
def trapFor? (s : State) (x : Signal) : Option Octets :=
  if x.name = "KILL" || x.name = "STOP" then none
  else (s.traps.find? (·.1 = x.name.toList)).map (·.2)

/-- Sends a signal to processes, one after the other; answers the scripts that run at it. A process
is the script itself or one that waits for it. -/
def sendSignal (signal : Option Signal) : List Octets → State → List Octets × State
  | [], s => ([], s)
  | p :: rest, s =>
    if p.isEmpty || !p.all Char.isDigit then
      ([], refuses s 2 ("kill: Illegal number: " ++ Octets.toText p))
    else
      let n := (count? p).getD 0
      if n = s.process then
        match signal with
        | none => sendSignal signal rest s
        | some x =>
          match trapFor? s x with
          | some source =>
            let (sources, s) := sendSignal signal rest s
            (source :: sources, s)
          | none =>
            if x.isHarmless then sendSignal signal rest s
            else ([], { s with flow := .killed n x })
      else if s.ancestors.contains n then
        match signal with
        | none => sendSignal signal rest s
        | some x =>
          if x.isHarmless then sendSignal signal rest s else ([], { s with flow := .killed n x })
      else sendSignal signal rest (refuses s 1 "kill: No such process\n")

/-- Writes the name of a signal that is given by its number, or by the status of a program it ended.
-/
def nameSignal (s : State) : List Octets → State
  | [] =>
    let names := "0\n" ++ String.join (Signal.all.map (·.name ++ "\n"))
    (s.write 1 (Octets.ofText names)).withStatus 0
  | n :: _ =>
    if n.isEmpty || !n.all Char.isDigit then
      refuses s 2 ("kill: Illegal number: " ++ Octets.toText n)
    else
      let k := (count? n).getD 0
      match Signal.ofNumber? (if 128 < k then k - 128 else k) with
      | some x => (s.write 1 (Octets.ofText (x.name ++ "\n"))).withStatus 0
      | none => refuses s 2 ("kill: invalid signal number or exit status: " ++ Octets.toText n)

/-- The name under which a script for a signal is kept. -/
def trapName (s : Octets) : Octets :=
  if s = ['0'] then "EXIT".toList
  else
    match Signal.ofText? s with
    | some (some x) => x.name.toList
    | _ => s

/-- Lets a script run at signals, or no script if the first argument is a hyphen. -/
def setTraps (s : State) : List Octets → State
  | source :: names =>
    let names := names.map trapName
    let others := s.traps.filter fun t => !names.contains t.1
    { s with
      traps := (if source = ['-'] then [] else names.map (·, source)) ++ others, status := 0 }
  | [] => s.withStatus 0

/-! ## Variables and arguments -/

/-- Makes another directory the one from which paths lead. -/
def changeDirectory (s : State) : List Octets → State
  | [] => s.withStatus 0
  | path :: _ =>
    match s.files.find (Octets.toText path) with
    | .ok (place, .directory) => { s with files := { s.files with home := place }, status := 0 }
    | _ => refuses s 2 ("cd: can't cd to " ++ Octets.toText path)

/-- The letters of the ways in which a script can go on, by their names. -/
def optionNames : List (String × Char) :=
  [("errexit", 'e'), ("noglob", 'f'), ("ignoreeof", 'I'), ("interactive", 'i'), ("monitor", 'm'),
    ("noexec", 'n'), ("stdin", 's'), ("xtrace", 'x'), ("verbose", 'v'), ("vi", 'V'), ("emacs", 'E'),
    ("noclobber", 'C'), ("allexport", 'a'), ("notify", 'b'), ("nounset", 'u')]

/-- Goes on in another way, or no longer so. -/
def setOption (s : State) (on : Bool) (letter : Char) : State :=
  match letter with
  | 'e' => { s with strict := on }
  | 'u' => { s with careful := on }
  | 'x' => { s with traced := on }
  | 'f' => { s with literal := on }
  | _ => s

/-- Sets the ways in which the script goes on, and the arguments if there are some behind them. -/
def setOptions (s : State) : List Octets → State
  | [] => s
  | ['-', '-'] :: args => { s with args := args }
  | ['-'] :: args => if args.isEmpty then s else { s with args := args }
  | (sign :: letters) :: args =>
    if sign = '-' || sign = '+' then
      let on := sign = '-'
      let set (s : State) : State := letters.foldl (fun s c => setOption s on c) s
      match letters.find? fun c => c ≠ 'o' && !(optionNames.any (·.2 = c)) with
      | some c => s.gives ("set: Illegal option -" ++ String.singleton c)
      | none =>
        match letters.contains 'o', args with
        | true, name :: args =>
          match optionNames.find? (·.1.toList = name) with
          | some (_, c) => setOptions (setOption (set s) on c) args
          | none => s.gives ("set: Illegal option -o " ++ Octets.toText name)
        | _, args => setOptions (set s) args
    else { s with args := (sign :: letters) :: args }
  | args => { s with args := args }

/-- A line of the input, in which a backslash takes the meaning of the character behind it, unless
it is `raw`; what is left of the input; and whether the line has an end. -/
def inputLine (raw : Bool) : Octets → List Mark × Octets × Bool
  | [] => ([], [], false)
  | '\\' :: '\n' :: rest =>
    if raw then ([('\\', false)], rest, true) else inputLine raw rest
  | '\\' :: c :: rest =>
    let (line, behind, ended) := inputLine raw rest
    (if raw then ('\\', false) :: (c, false) :: line else (c, true) :: line, behind, ended)
  | c :: rest =>
    if c = '\n' then ([], rest, true)
    else
      let (line, behind, ended) := inputLine raw rest
      (if c = '\\' && !raw then line else (c, false) :: line, behind, ended)

/-- Gives each name a text between separators, and the last name the rest. -/
def assignFields (s : State) : List Octets → List Mark → State
  | [], _ => s
  | [n], line =>
    let isBlank (m : Mark) : Bool := !m.2 && s.separators.contains m.1 && Fields.isBlank m.1
    let trimmed := (line.reverse.dropWhile isBlank).reverse
    let isOther (m : Mark) : Bool := !m.2 && s.separators.contains m.1
    let only := (trimmed.takeWhile (!isOther ·)).length + 1 = trimmed.length
    let value :=
      if only && (trimmed.getLast?.map isOther).getD false then trimmed.dropLast else trimmed
    s.assign n (plainField value)
  | n :: rest, line =>
    let isBlank (m : Mark) : Bool := !m.2 && s.separators.contains m.1 && Fields.isBlank m.1
    let isOther (m : Mark) : Bool := !m.2 && s.separators.contains m.1
    let word := line.takeWhile (!isOther ·)
    let behind := (line.drop word.length).dropWhile isBlank
    let behind := match behind with
      | m :: more => if isOther m && !isBlank m then more.dropWhile isBlank else behind
      | [] => []
    assignFields (s.assign n (plainField word)) rest behind

/-- Reads a line into variables. -/
def readLine (s : State) (args : List Octets) : State :=
  let names := args.dropWhile fun a => a.head? = some '-'
  if names.isEmpty then refuses s 2 "read: arg count"
  else
    let raw := (args.takeWhile fun a => a.head? = some '-').any (·.contains 'r')
    let (line, rest, ended) := inputLine raw s.input
    let s := { s with input := rest }
    let isBlank (m : Mark) : Bool := !m.2 && s.separators.contains m.1 && Fields.isBlank m.1
    let done := assignFields s names (line.dropWhile isBlank)
    if done.flow = .next then done.withStatus (if ended then 0 else 1) else done

/-- The assignment that an argument writes, or else the name that it is. -/
def assignmentIn (a : Octets) : Octets × Option Octets :=
  match a.dropWhile (· ≠ '=') with
  | '=' :: value => (a.takeWhile (· ≠ '='), some value)
  | _ => (a, none)

/-- Gives variables the values that arguments write, and does more with each. A value that must stay
ends the script. -/
def assignEach (program : String) (more : State → Octets → State) (s : State)
    (args : List Octets) : State :=
  let names := args.filter (·.head? ≠ some '-')
  names.foldl (fun s a =>
    let (n, value) := assignmentIn a
    if s.flow ≠ .next then s
    else
      match value with
      | none => more s n
      | some v =>
        if s.constants.contains n then
          s.gives (program ++ ": " ++ Octets.toText n ++ ": is read only")
        else (more s n).assign n v) (s.withStatus 0)

/-- Makes variables get back at the end of the function the values they have. -/
def keepValues (s : State) (args : List Octets) : State :=
  match s.locals with
  | none => s.gives "local: not in a function"
  | some _ =>
    assignEach "local" (fun s n =>
      let keep (l : List (Octets × Option Octets)) : List (Octets × Option Octets) :=
        if l.any (·.1 = n) then l else (n, s.valueOf? n) :: l
      { s with locals := s.locals.map keep }) s args

/-- Takes variables or functions away. -/
def unsetEach (s : State) (args : List Octets) : State :=
  let functions := args.head? = some "-f".toList
  (args.filter (·.head? ≠ some '-')).foldl (fun s n =>
    if s.flow ≠ .next then s
    else if functions then { s with functions := s.functions.filter (·.1 ≠ n) }
    else if s.constants.contains n then s.gives ("unset: " ++ Octets.toText n ++ ": is read only")
    else { s.setTo n none with exported := s.exported.filter (· ≠ n) }) (s.withStatus 0)

/-- Reads the next option from arguments into a variable. -/
def nextOption (s : State) : List Octets → State
  | letters :: goal :: rest =>
    let args := if rest.isEmpty then s.args else rest
    let index := ((s.valueOf? "OPTIND".toList).bind count?).getD 1
    let read := if s.options.1 = index then s.options.2 else 0
    let finish (s : State) (index read status : Nat) (value : Octets) : State :=
      (({ s with options := (index, read) }.assign "OPTIND".toList (Octets.ofInt index)).assign goal
        value).withStatus status
    let ends (index : Nat) : State := finish s index 0 1 ['?']
    match args[index - 1]? with
    | some ('-' :: c :: cs) =>
      if read = 0 && c = '-' && cs.isEmpty then ends (index + 1)
      else
        match (c :: cs).drop read with
        | [] => ends index
        | letter :: behind =>
          let quiet := letters.head? = some ':'
          let (index', read') := if behind.isEmpty then (index + 1, 0) else (index, read + 1)
          match letters.dropWhile (· ≠ letter) with
          | _ :: ':' :: _ =>
            match behind, args[index]? with
            | [], none =>
              if quiet then
                finish (s.assign "OPTARG".toList [letter]) (index + 1) 0 0 [':']
              else
                let s := s.write 2 ("No arg for -".toList ++ letter :: " option\n".toList)
                finish (s.setTo "OPTARG".toList none) (index + 1) 0 0 ['?']
            | [], some a => finish (s.assign "OPTARG".toList a) (index + 2) 0 0 [letter]
            | behind, _ => finish (s.assign "OPTARG".toList behind) (index + 1) 0 0 [letter]
          | _ :: _ => finish (s.assign "OPTARG".toList []) index' read' 0 [letter]
          | [] =>
            if quiet then finish (s.assign "OPTARG".toList [letter]) index' read' 0 ['?']
            else
              finish ((s.write 2 (Octets.ofText "Illegal option -" ++ [letter, '\n'])).setTo
                "OPTARG".toList none) index' read' 0 ['?']
    | _ => ends index
  | _ => refuses s 2 "getopts: Usage: getopts optstring var [arg...]"

/-- Goes on with the number that a first argument is, or with `n` if there is none. What is no
number ends the script. -/
def withNumber (name : String) (n : Nat) (use : State → Nat → State) (s : State)
    (args : List Octets) : State :=
  match args with
  | [] => use s n
  | a :: _ =>
    match count? a with
    | some n => use s n
    | none => s.gives (name ++ ": Illegal number: " ++ Octets.toText a)

/-- Leaves loops, or goes on with the next turn of one. Outside of loops nothing happens. -/
def withLoops (name : String) (flow : Nat → Flow) : State → List Octets → State :=
  withNumber name 1 fun s n =>
    if n = 0 then s.gives (name ++ ": Illegal number: 0")
    else if s.loops = 0 then s.withStatus 0
    else { s with flow := flow (min n s.loops), status := 0 }

/-- The programs of the shell itself. -/
def builtin? (name : String) : Option (State → List Octets → State) :=
  match name with
  | "exit" => some fun s args =>
    withNumber name s.status (fun s n => { s with status := n % 256, flow := .exits }) s args
  | "return" => some fun s args =>
    withNumber name s.status (fun s n => { s with status := n % 256, flow := .returns }) s args
  | "break" => some (withLoops name .leaves)
  | "continue" => some (withLoops name .continues)
  | "read" => some readLine
  | "shift" => some (withNumber name 1 fun s n =>
    if n ≤ s.args.length then { s with args := s.args.drop n, status := 0 }
    else s.gives "shift: can't shift that many")
  | "set" => some fun s args => setOptions (s.withStatus 0) args
  | "trap" => some setTraps
  | "cd" | "chdir" => some changeDirectory
  | "unset" => some unsetEach
  | "export" => some (assignEach name fun s n => { s with exported := n :: s.exported })
  | "readonly" => some fun s args =>
    let done := assignEach name (fun s _ => s) s args
    if done.flow ≠ .next then done
    else { done with constants := (args.map fun a => (assignmentIn a).1) ++ done.constants }
  | "local" => some keepValues
  | "getopts" => some nextOption
  | "type" => some describe
  | "umask" =>
    some fun s args => ((if args.isEmpty then s.write 1 "0022\n".toList else s)).withStatus 0
  | "ulimit" | "wait" | "hash" | "alias" | "unalias" | "jobs" | "bg" | "fg" =>
    some fun s _ => s.withStatus 0
  | "times" =>
    some fun s _ =>
      let line := "0m0.000000s 0m0.000000s\n".toList
      (s.write 1 (line ++ line)).withStatus 0
  | _ => none

end Conformance.Shell
