import Conformance.Shell.Batch
import Conformance.Shell.Builtin
import Conformance.Shell.Formula
import Conformance.Shell.Interpreter

/-!
# Running scripts

`Shell.exec` runs a command. Everything that can run a command in turn is bounded by one count,
which every step takes one from; a script that uses it up stops as if it had ended.
-/

namespace Conformance.Shell

/-! ## Putting words together -/

/-- How a word is put together: whether values are divided into fields, and whether the word's own
text is divided too, as that of a parameter's argument is. -/
structure Manner where
  splits : Bool
  loose : Bool := false

/-- Adds what is put in for a part of a word. -/
def Fields.putIn (f : Fields) (m : Manner) (s : State) (quoted : Bool) (text : Octets) : Fields :=
  if quoted then f.add true text
  else if m.splits then f.split s.separators text
  else f.add false text

/-- Adds the arguments of the script, each in a field of its own. -/
def Fields.putEach (f : Fields) (m : Manner) (s : State) (quoted : Bool) : List Octets → Fields
  | [] => f
  | [a] => f.putIn m s quoted a
  | a :: rest => ((f.putIn m s quoted a).close).putEach m s quoted rest

/-- Adds the value of a parameter. -/
def Fields.putParameter (f : Fields) (m : Manner) (s : State) (quoted : Bool) (name : Octets) :
    Fields :=
  if m.splits && (name = ['@'] || (name = ['*'] && !quoted)) then f.putEach m s quoted s.args
  else f.putIn m s quoted ((s.parameter? name).getD [])

/-- A text without the line feeds at its end. -/
def dropLineFeeds (s : Octets) : Octets := (s.reverse.dropWhile (· = '\n')).reverse

/-- What a command in a word leaves in it: no line feeds at its end, and nothing of what no text
holds. -/
def substituteText (s : Octets) : Octets := dropLineFeeds (s.filter (· ≠ '\x00'))

/-- Has the parameter a value? An operator with a colon takes an empty one for none. -/
def isSet (s : State) (name operator : Octets) : Bool :=
  match s.parameter? name with
  | some v => !operator.contains ':' || !v.isEmpty
  | none => false

/-! ## Programs -/

/-- Runs a utility under the name that it was called by. -/
def runUtility (s : State) (name : String) (u : Setting → Effect) (args : List Octets) : State :=
  let e := u ⟨name, args, s.input, s.files⟩
  let s := { s with files := e.files, input := e.input }
  (e.remarks.foldl State.complain ((s.write 1 e.out).write 2 e.err)).withStatus e.status

/-- Why a program does not run: the reason and the status. -/
def launchFault? (files : FileTree) (name : Octets) : Option (String × Nat) :=
  if (hostProgram? name).isSome then none
  else if name.isEmpty then some ("Permission denied", 127)
  else if !name.contains '/' then some ("not found", 127)
  else
    match files.find (Octets.toText name) with
    | .ok (_, .file content true) =>
      match interpreter? (Octets.ofBytes content) with
      | none => none
      | some (path, _) =>
        if (hostProgram? path).isSome && path.contains '/' then none
        else
          match files.find (Octets.toText path) with
          | .ok (_, .file _ true) => none
          | .ok _ => some ("Permission denied", 126)
          | .error _ => some ("not found", 127)
    | .ok _ => some ("Permission denied", 126)
    | .error .notFound | .error .notDirectory => some ("not found", 127)
    | .error .nameTooLong => some (reasonOf .nameTooLong, 127)
    | .error e => some (reasonOf e, 126)

/-- Why a program that is run by another one does not run. -/
def launchReason (fault : String × Nat) : String :=
  if fault.1 = "not found" then reasonOf .notFound else fault.1

/-- Why a file cannot be read, or written. -/
def openFault (writes : Bool) : FileError → String
  | .notFound | .notDirectory => if writes then "Directory nonexistent" else "No such file"
  | e => reasonOf e

/-- Makes a channel lead into a file. -/
def leadTo (s : State) (channel : Nat) (path : String) (anew : Bool) : Except FileError State :=
  if path = "/dev/null" then .ok (s.lead channel .nowhere)
  else if !anew && s.files.exists? path && !s.files.isDirectory path then
    .ok (s.lead channel (.file path))
  else
    (s.files.write path ByteArray.empty).map fun files =>
      { s with files := files }.lead channel (.file path)

/-- Writes a program before it runs. -/
def trace (s : State) (assignments : List (Octets × Octets)) (fields : List Octets) : State :=
  if s.traced then
    let texts := (assignments.map fun (n, v) => n ++ '=' :: v) ++ fields
    s.write 2 ('+' :: ' ' :: [' '].intercalate texts ++ ['\n'])
  else s

/-! ## Commands -/

/-- Does a loop go on with its next turn, and in which state? -/
def afterTurn (s : State) : Bool × State :=
  match s.flow with
  | .next => (true, s)
  | .leaves n => (false, { s with flow := if n ≤ 1 then .next else .leaves (n - 1) })
  | .continues n =>
    if n ≤ 1 then (true, { s with flow := .next })
    else (false, { s with flow := .continues (n - 1) })
  | _ => (false, s)

mutual

/-- Puts the parts of a word together. -/
def expandParts : Nat → Manner → Word → Fields → State → Fields × State
  | 0, _, _, f, s => (f, s)
  | _, _, [], f, s => (f, s)
  | fuel + 1, m, part :: rest, f, s =>
    let (f, s) := match part with
      | .text true t => (f.add true t, s)
      | .text false t => (if m.loose then f.putIn m s false t else f.add false t, s)
      | .command quoted source =>
        let (text, s) := substituted fuel source s
        (f.putIn m s quoted text, s)
      | .sum quoted source =>
        let (text, s) := expandText fuel (quotedWord .whole source) s
        let (value, s) := sumOf text s
        (f.putIn m s quoted value, s)
      | .parameter quoted name operator argument =>
        expandParameter fuel m quoted name operator argument f s
    if s.flow = .next then expandParts fuel m rest f s else (f, s)
where
  /-- The value of a sum. -/
  sumOf (source : Octets) (s : State) : Octets × State :=
    match Formula.evaluate s.parameter? source with
    | .error e => ([], s.gives (e.message source))
    | .ok (n, assigned) =>
      let assign (s : State) (a : Octets × Int64) : State := s.assign a.1 (Octets.ofInt a.2.toInt)
      (Octets.ofInt n.toInt, assigned.foldl assign s)

/-- Puts a parameter into a word. -/
def expandParameter : Nat → Manner → Bool → Octets → Octets → Octets → Fields → State →
    Fields × State
  | 0, _, _, _, _, _, f, s => (f, s)
  | fuel + 1, m, quoted, name, operator, argument, f, s =>
    let value := (s.parameter? name).getD []
    let own : Fields × State := (f.putParameter m s quoted name, s)
    let other : Fields × State :=
      let f := if quoted then f.add true [] else f
      expandParts fuel { m with loose := true } (argumentWord quoted argument) f s
    match String.ofList operator with
    | "" =>
      if s.careful && (s.parameter? name).isNone && name ≠ ['*'] && name ≠ ['@'] then
        (f, s.gives (Octets.toText name ++ ": parameter not set"))
      else own
    | "#length" =>
      if s.careful && (s.parameter? name).isNone then
        (f, s.gives (Octets.toText name ++ ": parameter not set"))
      else (f.putIn m s quoted (Octets.ofInt value.length), s)
    | ":-" | "-" => if isSet s name operator then own else other
    | ":+" | "+" =>
      if isSet s name operator then other else (if quoted then f.add true [] else f, s)
    | ":=" | "=" =>
      if isSet s name operator then own
      else
        let (text, s) := expandText fuel (argumentWord quoted argument) s
        (f.putIn m s quoted text, s.assign name text)
    | ":?" | "?" =>
      if isSet s name operator then own
      else
        let (text, s) := expandText fuel (argumentWord quoted argument) s
        let reason := if !text.isEmpty then Octets.toText text
          else if operator.contains ':' then "parameter not set or null" else "parameter not set"
        (f, s.gives (Octets.toText name ++ ": " ++ reason))
    | "#" => expandCut fuel m quoted (cutFront false) value argument f s
    | "##" => expandCut fuel m quoted (cutFront true) value argument f s
    | "%" => expandCut fuel m quoted (cutBack false) value argument f s
    | "%%" => expandCut fuel m quoted (cutBack true) value argument f s
    | _ => (f, s.gives "Bad substitution")

/-- Puts in a value without the part for which a pattern stands. -/
def expandCut : Nat → Manner → Bool → (List Mark → Octets → Octets) → Octets → Octets → Fields →
    State → Fields × State
  | 0, _, _, _, _, _, f, s => (f, s)
  | fuel + 1, m, quoted, how, value, argument, f, s =>
    let (pattern, s) := expandPattern fuel (argumentWord false argument) s
    (f.putIn m s quoted (how pattern value), s)

/-- The text of a word that is not divided into fields. -/
def expandText : Nat → Word → State → Octets × State
  | 0, _, s => ([], s)
  | fuel + 1, w, s =>
    let (pattern, s) := expandPattern fuel w s
    (plainField pattern, s)

/-- The pattern that a word is. -/
def expandPattern : Nat → Word → State → List Mark × State
  | 0, _, s => ([], s)
  | fuel + 1, w, s =>
    let (f, s) := expandParts fuel ⟨false, false⟩ w {} s
    (f.all.flatten, s)

/-- What a command leaves in a word. -/
def substituted : Nat → Octets → State → Octets × State
  | 0, _, s => ([], s)
  | fuel + 1, source, s =>
    let (n, child) := s.capture
    let child := finish fuel (runText fuel "" source { child with traps := [] })
    (substituteText (child.buffered n), s.leave child)

/-- The fields of words. -/
def expandWords : Nat → List Word → State → List Octets × State
  | 0, _, s => ([], s)
  | _, [], s => ([], s)
  | fuel + 1, w :: rest, s =>
    let (f, s) := expandParts fuel ⟨true, false⟩ w {} s
    if s.flow ≠ .next then ([], s)
    else
      let fields :=
        f.all.flatMap fun field => if s.literal then [plainField field] else globbed s.files field
      let (more, s) := expandWords fuel rest s
      (fields ++ more, s)

/-- Makes the channels lead where redirections say; nothing if one of them fails. -/
def redirect : Nat → List Redirection → State → Option State × State
  | 0, _, s => (some s, s)
  | _, [], s => (some s, s)
  | fuel + 1, r :: rest, s =>
    let (text, s) := expandText fuel r.word s
    let path := Octets.toText text
    let failed (reason : String) : Except State State := .error ((s.complain reason).withStatus 2)
    let opened : Except State State := match r.kind with
      | .here => .ok { s with input := text }
      | .input =>
        if path = "/dev/null" then .ok { s with input := [] }
        else
          match s.files.readBytes path with
          | .ok b => .ok { s with input := Octets.ofBytes b }
          | .error .isDirectory => .ok { s with input := [] }
          | .error e => failed ("cannot open " ++ path ++ ": " ++ openFault false e)
      | .output | .append =>
        match leadTo s r.channel path (r.kind = .output) with
        | .ok s => .ok s
        | .error e => failed ("cannot create " ++ path ++ ": " ++ openFault true e)
      | .duplicate =>
        match text with
        | ['-'] => .ok (s.lead r.channel .nowhere)
        | [d] =>
          if !d.isDigit then .error (s.gives "Syntax error: Bad fd number")
          else if r.channel = 0 || d = '0' then .ok s
          else
            let n := d.toNat - 48
            if s.channels.any (·.1 = n) then .ok (s.lead r.channel (s.target n))
            else failed (path ++ ": Bad file descriptor")
        | _ => .error (s.gives "Syntax error: Bad fd number")
    if s.flow ≠ .next then (none, s)
    else
      match opened with
      | .ok s => redirect fuel rest s
      | .error s => (none, s)

/-- Gives variables the values of words, and answers these. -/
def assignAll : Nat → List (Octets × Word) → State → List (Octets × Octets) × State
  | 0, _, s => ([], s)
  | _, [], s => ([], s)
  | fuel + 1, (name, w) :: rest, s =>
    let (text, s) := expandText fuel w s
    if s.flow ≠ .next then ([], s)
    else
      let (more, s) := assignAll fuel rest (s.assign name text)
      ((name, text) :: more, s)

/-- Runs the program that fields name. -/
def runFields : Nat → List Octets → State → State
  | 0, _, s => s
  | _, [], s => s
  | fuel + 1, name :: args, s =>
    match s.functions.find? (·.1 = name) with
    | some (_, body) =>
      let done := exec fuel body { s with args := args, locals := some [], loops := 0 }
      let done := (done.locals.getD []).foldl (fun s (n, v) => s.setTo n v) done
      { done with
        args := s.args, locals := s.locals, loops := s.loops
        flow := if done.flow = .returns then .next else done.flow }
    | none => runNamed fuel name args s

/-- Runs a program that is no function. -/
def runNamed : Nat → Octets → List Octets → State → State
  | 0, _, _, s => s
  | fuel + 1, name, args, s =>
    match String.ofList name with
    | "eval" => runText fuel "eval: " ([' '].intercalate args) (s.withStatus 0)
    | "exec" =>
      match args with
      | [] => s
      | program :: rest =>
        let done := runProgram fuel "exec: " program rest s
        match done.flow, done.signal with
        | .next, some x => { done with signal := none, flow := .killed s.process x }
        | .next, none => { done with flow := .exits }
        | _, _ => done
    | "command" =>
      match args with
      | ['-', 'v'] :: wanted :: _ => resolve s wanted
      | ['-', 'V'] :: names => describe s names
      | ['-', 'p'] :: program :: rest | program :: rest => runNamed fuel program rest s
      | [] => s.withStatus 0
    | "." =>
      match args with
      | [] => s.withStatus 0
      | file :: _ =>
        let path := Octets.toText file
        if !file.contains '/' then s.gives (".: " ++ path ++ ": not found")
        else
          match s.files.readBytes path with
          | .error e => s.gives (".: cannot open " ++ path ++ ": " ++ openFault false e)
          | .ok content =>
            let done := runText fuel "" (Octets.ofBytes content) (s.withStatus 0)
            { done with flow := if done.flow = .returns then .next else done.flow }
    | "kill" =>
      match KillRequest.ofArgs args with
      | .invalid reason => refuses s 2 ("kill: " ++ reason)
      | .name numbers => nameSignal s numbers
      | .send signal processes =>
        let (sources, s) := sendSignal signal processes (s.withStatus 0)
        runTexts fuel sources s
    | known =>
      match builtin? known with
      | some b => b s args
      | none => runProgram fuel "" name args s

/-- Runs a program that is not part of the shell, or one that could be run without it. -/
def runProgram : Nat → String → Octets → List Octets → State → State
  | 0, _, _, _, s => s
  | fuel + 1, complainer, name, args, s =>
    match hostProgram? name with
    | some program =>
      if shells.contains program then runShell fuel name args s
      else if launchers.contains program then runLauncher fuel program (Octets.toText name) args s
      else
        match utility? program.toList with
        | some u => runUtility s (Octets.toText name) u args
        | none => s
    | none =>
      match launchFault? s.files name with
      | some (reason, status) =>
        (s.complain (complainer ++ Octets.toText name ++ ": " ++ reason)).withStatus status
      | none =>
        match s.files.readBytes (Octets.toText name) with
        | .error _ => s
        | .ok content =>
          match interpreter? (Octets.ofBytes content) with
          | none => runChild fuel [] (Octets.ofBytes content) name args s
          | some (path, argument) => runProgram fuel complainer path (argument ++ name :: args) s

/-- Runs a shell. -/
def runShell : Nat → Octets → List Octets → State → State
  | 0, _, _, s => s
  | fuel + 1, name, args, s =>
    let (options, operands) := Setting.Options.leading [] args
    let letters := options.flatMap (List.drop 1)
    let failed (reason : String) : State :=
      (s.write 2 (name ++ Octets.ofText (": 0: " ++ reason ++ "\n"))).withStatus 2
    match letters.find? fun c => !("csl".toList.contains c) && !(optionNames.any (·.2 = c)) with
    | some c => failed ("Illegal option -" ++ String.singleton c)
    | none =>
      match letters.contains 'c', operands with
      | true, [] => failed "-c requires an argument"
      | false, [] => runChild fuel letters s.input name [] { s with input := [] }
      | true, source :: rest => runChild fuel letters source (rest.headD name) (rest.drop 1) s
      | false, path :: rest =>
        match s.files.readBytes (Octets.toText path) with
        | .error e => failed ("cannot open " ++ Octets.toText path ++ ": " ++ openFault false e)
        | .ok content => runChild fuel letters (Octets.ofBytes content) path rest s

/-- Runs a program that runs others. -/
def runLauncher : Nat → String → String → List Octets → State → State
  | 0, _, _, _, s => s
  | fuel + 1, program, name, args, s =>
    let complain (status : Nat) (reason : String) (s : State) : State :=
      (s.write 2 (Octets.ofText (name ++ ": " ++ reason ++ "\n"))).withStatus status
    let misused (status : Nat) (reason : String) : State :=
      complain status (reason ++ "\nTry '" ++ name ++ " --help' for more information.") s
    let launch (quoted : String → String) (s : State) : List Octets → State
      | [] => s
      | target :: rest =>
        match launchFault? s.files target with
        | some fault =>
          complain fault.2 (quoted (Octets.toText target) ++ ": " ++ launchReason fault) s
        | none => runProgram fuel "" target rest s
    let plainly (target : String) : String := "'" ++ target ++ "'"
    let asCommand (target : String) : String := "failed to run command '" ++ target ++ "'"
    match program with
    | "env" =>
      let (options, operands) := Setting.Options.leading ['u'] args
      match Setting.Options.ofArgs [] ['i', '0', 'v'] ['u'] options with
      | .error f => misused 125 f.message
      | .ok o =>
        let hidden := (o.values.map (·.2)) ++ if o.has 'i' then s.exported else []
        let shown := { s with exported := s.exported.filter (!hidden.contains ·) }
        let settings := (operands.takeWhile (·.contains '=')).map assignmentIn
        let seen :=
          settings.foldl (fun t (n, v) => { t.setTo n v with exported := n :: t.exported }) shown
        match operands.drop settings.length with
        | [] =>
          let ls := (seen.exported.reverse.eraseDups.filterMap fun n =>
            (seen.valueOf? n).map fun v => n ++ '=' :: v ++ ['\n'])
          (s.write 1 ls.flatten).withStatus 0
        | command =>
          let done := launch plainly seen command
          let done : State := { done with exported := s.exported }
          settings.foldl (fun t (n, _) => t.setTo n (s.valueOf? n)) done
    | "nice" =>
      match (Setting.Options.leading ['n'] args).2 with
      | [] => (s.write 1 ['0', '\n']).withStatus 0
      | command => launch plainly s command
    | "nohup" => if args.isEmpty then misused 125 "missing operand" else launch asCommand s args
    | "timeout" =>
      match (Setting.Options.leading ['k', 's'] args).2 with
      | limit :: target :: rest =>
        if isTime limit then launch asCommand s (target :: rest)
        else misused 125 ("invalid time interval '" ++ Octets.toText limit ++ "'")
      | _ =>
        let usage := "Try '" ++ name ++ " --help' for more information.\n"
        (s.write 2 (Octets.ofText usage)).withStatus 125
    | "which" =>
      let found := (args.filter (·.head? ≠ some '-')).map fun n =>
        (hostPlace? n).orElse fun _ =>
          if n.contains '/' && isRunnable s.files n then some n else none
      let s := s.write 1 (found.flatMap fun p => (p.map (· ++ ['\n'])).getD [])
      s.withStatus (if found.isEmpty || found.any Option.isNone then 1 else 0)
    | _ =>
      let (options, command) := Setting.Options.leading "ILndPs".toList args
      match Setting.Options.ofArgs [] "0rtxp".toList "ILndPs".toList options with
      | .error f => misused 1 f.message
      | .ok o =>
        let command := if command.isEmpty then ["echo".toList] else command
        let (calls, fault) := batches o command s.input
        let done := runCalls fuel (o.has 't') calls ({ s with input := [] }.withStatus 0)
        let done := match calls.head?.bind List.head?, done.status with
          | some target, 127 =>
            complain 127 (Octets.toText target ++ ": " ++ reasonOf .notFound) done
          | some target, 126 => complain 126 (Octets.toText target ++ ": Permission denied") done
          | some target, 124 =>
            complain 124 (Octets.toText target ++ ": exited with status 255; aborting") done
          | _, _ => done
        match fault with
        | some reason => complain 1 reason done
        | none => done

/-- Runs calls one after the other, up to one that cannot be run or that ends with the greatest
status. Each call is written before it runs if that is asked for. -/
def runCalls : Nat → Bool → List (List Octets) → State → State
  | 0, _, _, s => s
  | _, _, [], s => s
  | _, _, [] :: _, s => s
  | fuel + 1, isShown, (target :: args) :: rest, s =>
    match launchFault? s.files target with
    | some (_, status) => s.withStatus status
    | none =>
      let before := s.status
      let s := if isShown then s.write 2 ([' '].intercalate (target :: args) ++ ['\n']) else s
      let done : State := { runProgram fuel "" target args s with input := [] }
      if done.flow ≠ .next then done
      else if done.status = 255 then done.withStatus 124
      else runCalls fuel isShown rest (done.withStatus (if done.status = 0 then before else 123))

/-- Runs the lines of a text. A line that breaks the grammar ends the script. -/
def runText : Nat → String → Octets → State → State
  | 0, _, _, s => s
  | fuel + 1, name, source, s =>
    let script := Script.ofSource source
    let s := exec fuel script.command s
    match s.flow, script.fault with
    | .next, some (line, reason) => { s with line := line }.gives (name ++ reason)
    | _, _ => s

/-- Runs texts one after the other. -/
def runTexts : Nat → List Octets → State → State
  | 0, _, s => s
  | _, [], s => s
  | fuel + 1, source :: rest, s =>
    let s := runText fuel "" source s
    if s.flow = .next then runTexts fuel rest s else s

/-- Runs a script of its own with a name and arguments; it sees the variables that are exported. A
signal that ends it does not end the shell. -/
def runChild : Nat → Octets → Octets → Octets → List Octets → State → State
  | 0, _, _, _, _, s => s
  | fuel + 1, letters, source, name, args, s =>
    let process := s.process + 1
    let child : State :=
      { name := name, args := args, files := s.files, input := s.input, buffers := s.buffers
        channels := s.channels, exported := s.exported, process := process
        ancestors := s.process :: s.ancestors
        bindings := ("PPID".toList, Octets.ofInt s.process)
          :: s.bindings.filter fun v => s.exported.contains v.1 && v.1 ≠ "PPID".toList }
    let done :=
      finish fuel (runText fuel "" source (letters.foldl (fun s c => setOption s true c) child))
    s.leave (match done.flow with
      | .killed p x =>
        if p = process then
          { done with flow := .next, status := 128 + x.number, signal := some x }
        else done
      | _ => done)

/-- Runs what a script has for its end. -/
def finish : Nat → State → State
  | 0, s => s
  | fuel + 1, s =>
    match if s.isKilled then none else s.traps.find? (·.1 = "EXIT".toList) with
    | none => s
    | some (_, source) =>
      let done := runText fuel "" source { s with flow := .next, traps := [] }
      if done.flow = .next then done.withStatus s.status else done

/-- Runs one program. -/
def runSimple : Nat → Simple → State → State
  | 0, _, s => s
  | fuel + 1, p, s =>
    let s := { s with line := p.line }
    let (fields, s) := expandWords fuel p.words s
    let isSpecial := match fields with
      | name :: _ =>
        specialPrograms.contains (String.ofList name) && !(s.functions.any (·.1 = name))
      | [] => false
    if s.flow ≠ .next then s
    else
      match redirect fuel p.redirections s with
      | (none, failed) =>
        let failed := { failed with channels := s.channels }
        if isSpecial && failed.flow = .next then { failed with flow := .exits } else failed
      | (some inner, _) =>
        let (assignments, assigned) := assignAll fuel p.assignments inner
        let traced := trace { assigned with channels := s.channels } assignments fields
        let inner := { traced with channels := inner.channels }
        let input (done : State) : Octets :=
          if p.redirections.any keepsInput then s.input else done.input
        match inner.flow, fields with
        | .next, [] =>
          let runs := p.words.any Word.runsCommand || p.assignments.any (·.2.runsCommand)
          { inner with
            channels := s.channels, input := s.input, status := if runs then inner.status else 0 }
        | .next, name :: _ =>
          let names := if isSpecial then [] else assignments.map (·.1)
          let done := runFields fuel fields { inner with exported := names ++ inner.exported }
          let done := names.foldl (fun t n => t.setTo n (s.valueOf? n)) done
          let seen := done.exported.filter fun n => !names.contains n || s.exported.contains n
          let isExec := name = "exec".toList && fields.length = 1
          let channels := if isExec then done.channels else s.channels
          { done with channels := channels, input := input done, exported := seen }.report
        | _, _ => { inner with channels := s.channels, input := input inner }
where
  /-- Does the redirection put another input in the place of the shell's? -/
  keepsInput (r : Redirection) : Bool := r.kind = .input || r.kind = .here

/-- Runs a command. -/
def exec : Nat → Command → State → State
  | 0, _, s => { s with flow := .exits }
  | fuel + 1, c, s =>
    match c with
    | .skip => s
    | .simple p => (runSimple fuel p s).checked
    | .seq a b =>
      let s := exec fuel a s
      if s.flow = .next then exec fuel b s else s
    | .both a b =>
      let s := tested fuel a s
      if s.flow = .next && s.status = 0 then exec fuel b s else s
    | .either a b =>
      let s := tested fuel a s
      if s.flow = .next && s.status ≠ 0 then exec fuel b s else s
    | .negate c =>
      let s := tested fuel c s
      if s.flow = .next then s.withStatus (if s.status = 0 then 1 else 0) else s
    | .pipe a b =>
      let (n, child) := s.capture
      let left := finish fuel (exec fuel a { child with traps := [] })
      let child := s.leave left
      if child.flow ≠ .next then child
      else
        let right := finish fuel (exec fuel b { child with input := left.buffered n, traps := [] })
        { s.leave right with input := s.input }.checked
    | .condition test yes no =>
      let s := tested fuel test s
      if s.flow ≠ .next then s
      else if s.status = 0 then exec fuel yes s
      else exec fuel no (s.withStatus 0)
    | .loop wanted test body =>
      { runLoop fuel wanted test body 0 { s with loops := s.loops + 1 } with loops := s.loops }
    | .each name words body =>
      let (values, s) := match words with
        | some ws => expandWords fuel ws s
        | none => (s.args, s)
      if s.flow ≠ .next then s
      else
        let done := runEach fuel name values body { s.withStatus 0 with loops := s.loops + 1 }
        { done with loops := s.loops }
    | .select word branches =>
      let (text, s) := expandText fuel word s
      if s.flow = .next then runBranches fuel text branches (s.withStatus 0) else s
    | .group body rs =>
      match redirect fuel rs s with
      | (none, s') => { s' with channels := s.channels }
      | (some inner, _) =>
        let done := exec fuel body inner
        let input :=
          if rs.any fun r => r.kind = .input || r.kind = .here then s.input else done.input
        { done with channels := s.channels, input := input }
    | .subshell body => (s.leave (finish fuel (exec fuel body { s with traps := [] }))).checked
    | .detached body =>
      let done := s.leave (finish fuel (exec fuel body { s with traps := [], input := [] }))
      { done with input := s.input, signal := none, status := 0 }
    | .define name body =>
      { s with functions := (name, body) :: s.functions.filter (·.1 ≠ name), status := 0 }

/-- Runs a command whose failure ends no script. -/
def tested : Nat → Command → State → State
  | 0, _, s => { s with flow := .exits }
  | fuel + 1, c, s => { exec fuel c { s with strict := false } with strict := s.strict }

/-- Runs a loop with a test. -/
def runLoop : Nat → Bool → Command → Command → Nat → State → State
  | 0, _, _, _, _, s => { s with flow := .exits }
  | fuel + 1, wanted, test, body, last, s =>
    let s := tested fuel test s
    if s.flow ≠ .next then (afterTurn s).2
    else if (s.status == 0) != wanted then s.withStatus last
    else
      match afterTurn (exec fuel body s) with
      | (true, s) => runLoop fuel wanted test body s.status s
      | (false, s) => s

/-- Runs a loop over values. -/
def runEach : Nat → Octets → List Octets → Command → State → State
  | 0, _, _, _, s => { s with flow := .exits }
  | _, _, [], _, s => s
  | fuel + 1, name, v :: rest, body, s =>
    let s := s.assign name v
    match afterTurn (if s.flow = .next then exec fuel body s else s) with
    | (true, s) => runEach fuel name rest body s
    | (false, s) => s

/-- Runs the first branch with a pattern for the text. -/
def runBranches : Nat → Octets → List (List Word × Command) → State → State
  | 0, _, _, s => s
  | _, _, [], s => s
  | fuel + 1, text, (patterns, body) :: rest, s =>
    let (found, s) := anyPattern fuel text patterns s
    if found then exec fuel body s else runBranches fuel text rest s

/-- Does one of the patterns stand for the text? -/
def anyPattern : Nat → Octets → List Word → State → Bool × State
  | 0, _, _, s => (false, s)
  | _, _, [], s => (false, s)
  | fuel + 1, text, w :: rest, s =>
    let (pattern, s) := expandPattern fuel w s
    if patternMatches pattern text then (true, s) else anyPattern fuel text rest s

end

/-- How many steps a script may take one within the other. -/
def stepBound : Nat := 20000

/-- Runs a script to its end, and then what it has for its end. -/
def run (source : Octets) (s : State) : State := finish stepBound (runText stepBound "" source s)

end Conformance.Shell
