import Conformance.Shell.Calculation
import Conformance.Shell.Characters
import Conformance.Shell.Directories
import Conformance.Shell.Editing
import Conformance.Shell.Search
import Conformance.Shell.Test

/-!
# Utilities

The programs that scripts find on every host, by name, as functions of their arguments, their input
and the files. Those that only write stand here.
-/

namespace Conformance.Shell

/-- Writes its arguments with blanks between them, escapes put in or not. -/
def echoUtility (escapes : Bool) (s : Setting) : Effect :=
  let (noEnd, args) := match s.args with
    | ['-', 'n'] :: rest => (true, rest)
    | args => (false, args)
  let text := [' '].intercalate args
  if escapes then
    let (text, cut) := unescape (text.length + 1) text
    s.writes (if cut || noEnd then text else text ++ ['\n'])
  else s.writes (if noEnd then text else text ++ ['\n'])

/-- Writes formatted output. Options may be refused, or else be the format. -/
def printfUtility (refuses : Bool) (s : Setting) : Effect :=
  match s.args with
  | ['-', '-'] :: format :: args => writeFormat format args
  | [] | [['-', '-']] => s.remarks 2 ["usage: printf format [arg ...]"]
  | ('-' :: c :: rest) :: args =>
    if refuses then s.remarks 2 ["Illegal option -" ++ String.singleton c]
    else writeFormat ('-' :: c :: rest) args
  | format :: args => writeFormat format args
where
  /-- Writes a format with its arguments. -/
  writeFormat (format : Octets) (args : List Octets) : Effect :=
    let f := formatted format args
    { s.remarks (if f.fault.isSome then 2 else if f.complaints.isEmpty then 0 else 1)
        (f.complaints ++ f.fault.toList) with out := f.text }

/-- A decimal number with the count of its decimal places, in units of the last of them. -/
def decimal? (s : Octets) : Option (Int × Nat) :=
  let (isNegative, text) := match s with
    | '-' :: rest => (true, rest)
    | '+' :: rest => (false, rest)
    | text => (false, text)
  let whole := text.takeWhile (· ≠ '.')
  let part := (text.drop whole.length).drop 1
  if (whole ++ part).isEmpty || !(whole ++ part).all Char.isDigit then none
  else
    let n : Int := Nat.ofDigitChars 10 (whole ++ part) 0
    some (if isNegative then -n else n, part.length)

/-- The text of a number in units of a decimal place. -/
def decimalText (places : Nat) (n : Int) : Octets :=
  let digits := Octets.ofInt n.natAbs
  let digits := List.replicate (places + 1 - digits.length) '0' ++ digits
  let whole := digits.take (digits.length - places)
  (if n < 0 then ['-'] else []) ++ whole
    ++ if places = 0 then [] else '.' :: digits.drop whole.length

/-- Writes the numbers of a range. -/
def sequenceUtility (s : Setting) : Effect :=
  let isNumber (a : Octets) : Bool := (decimal? a).isSome
  let front := s.args.takeWhile fun a => !isNumber a
  let behind := s.args.drop front.length
  Setting.withOptions { s with args := front } 1 "w" "sf" fun o =>
    let operands := o.operands ++ behind
    match operands.mapM decimal? with
    | none =>
      s.misused 1 ("invalid floating point argument: '"
        ++ Octets.toText ((operands.find? fun a => !isNumber a).getD []) ++ "'")
    | some numbers =>
      let range : Except String ((Int × Nat) × (Int × Nat) × (Int × Nat)) := match numbers with
        | [] => .error "missing operand"
        | [last] => .ok ((1, 0), (1, 0), last)
        | [first, last] => .ok (first, (1, 0), last)
        | [first, step, last] =>
          if step.1 = 0 then
            let text := Octets.toText (operands[1]?.getD [])
            .error ("invalid Zero increment value: '" ++ text ++ "'")
          else .ok (first, step, last)
        | _ => .error ("extra operand '" ++ Octets.toText (operands[3]?.getD []) ++ "'")
      match range with
      | .error reason => s.misused 1 reason
      | .ok (first, step, last) =>
        let places := max first.2 step.2
        let scale := max places last.2
        let unit (n : Int × Nat) : Int := n.1 * (Nat.pow 10 (scale - n.2) : Nat)
        let count := (Int.fdiv (unit last - unit first) (unit step) + 1).toNat
        let texts := (List.range count).map fun (i : Nat) =>
          let n := unit first + i * unit step
          decimalText places (Int.fdiv n (Nat.pow 10 (scale - places) : Nat))
        let width := (texts.map List.length).foldl max 0
        let padded (t : Octets) : Octets := match t with
          | '-' :: rest => '-' :: List.replicate (width - t.length) '0' ++ rest
          | t => List.replicate (width - t.length) '0' ++ t
        let texts := if o.has 'w' then texts.map padded else texts
        let separator := (o.value? 's').getD ['\n']
        s.writes (if texts.isEmpty then [] else separator.intercalate texts ++ ['\n'])

/-- Writes a line again and again, as often as anything reads. -/
def repeatUtility (s : Setting) : Effect :=
  let line := if s.args.isEmpty then ['y'] else [' '].intercalate s.args
  s.writes (List.replicate 100000 (line ++ ['\n'])).flatten

/-- Does the text say how long something takes? -/
def isTime (a : Octets) : Bool :=
  let digits := a.takeWhile fun c => c.isDigit || c = '.'
  digits.any Char.isDigit && digits.count '.' ≤ 1
    && ["", "s", "m", "h", "d"].contains (String.ofList (a.drop digits.length))

/-- Waits for some time. -/
def sleepUtility (s : Setting) : Effect :=
  s.withOptions 1 "" "" fun o =>
    if o.operands.isEmpty then s.misused 1 "missing operand"
    else
      match o.operands.filter fun a => !isTime a with
      | [] => s.ends 0
      | bad =>
        s.misused 1 (("\n" ++ s.name ++ ": ").intercalate (bad.map fun a =>
          "invalid time interval '" ++ Octets.toText a ++ "'"))

/-- Copies blocks of a file, or of the input. -/
def blockUtility (s : Setting) : Effect :=
  let value? (name : String) : Option Octets :=
    (s.args.reverse.find? fun a => (name ++ "=").toList.isPrefixOf a).map (·.drop (name.length + 1))
  let number (name : String) (n : Nat) : Nat := ((value? name).bind multiplied?).getD n
  let source := match value? "if" with
    | some path => (s.read path).mapError fun f =>
      s.complaint ("failed to open '" ++ Octets.toText path ++ "': " ++ reasonOf f)
    | none => .ok s.input
  match source with
  | .error reason => (s.ends 0).complain 1 reason
  | .ok text =>
    let size := max 1 (number "bs" 512)
    let text := text.drop (number "skip" 0 * size)
    let text := match value? "count" with
      | some _ => text.take (number "count" 0 * size)
      | none => text
    let blocks :=
      toString (text.length / size) ++ "+" ++ (if text.length % size = 0 then "0" else "1")
    let e := s.ends 0
    let e := match value? "of" with
      | none => e.write text
      | some path =>
        match s.files.write (Octets.toText path) (Octets.toBytes text) with
        | .ok files => { e with files := files }
        | .error _ => e
    if (value? "status").isSome then e
    else { e with err := Octets.ofText (blocks ++ " records in\n" ++ blocks ++ " records out\n") }

/-- Writes who runs the script: the user with the number zero. -/
def userUtility (s : Setting) : Effect :=
  s.withOptions 1 "Gagnruz" "" fun o =>
    let text := if (o.has 'u' || o.has 'g' || o.has 'G') then (if o.has 'n' then "root" else "0")
      else "uid=0(root) gid=0(root) groups=0(root)"
    s.writes (Octets.ofText (text ++ "\n"))

/-- The utilities by name, without those that look for utilities. -/
def utilities : List (String × (Setting → Effect)) := [
  ("echo", echoUtility true),
  ("printf", printfUtility true),
  ("true", (·.ends 0)),
  (":", (·.ends 0)),
  ("false", (·.ends 1)),
  ("sleep", sleepUtility),
  ("test", testUtility),
  ("[", fun s =>
    if s.args.getLast? = some [']'] then testUtility { s with args := s.args.dropLast }
    else s.remarks 2 ["missing ]"]),
  ("cat", concatUtility),
  ("head", someLines false firstLines),
  ("tail", someLines true lastLines),
  ("wc", countUtility),
  ("tr", characterUtility),
  ("cut", cutUtility),
  ("sort", sortUtility),
  ("uniq", distinctUtility),
  ("nl", numberUtility),
  ("paste", pasteUtility),
  ("rev", reverseUtility),
  ("tac", backwardsUtility),
  ("grep", searchUtility),
  ("sed", editUtility),
  ("expr", calculationUtility),
  ("base64", encodingUtility),
  ("chmod", permitUtility),
  ("seq", sequenceUtility),
  ("yes", repeatUtility),
  ("dd", blockUtility),
  ("cmp", compareUtility),
  ("ls", listUtility),
  ("pwd", fun s => s.writes (Octets.ofText ("/" ++ "/".intercalate s.files.home ++ "\n"))),
  ("rm", removeUtility),
  ("rmdir", unmakeUtility),
  ("cp", copyUtility false),
  ("mv", copyUtility true),
  ("tee", copyInputUtility),
  ("mkdir", makeUtility),
  ("touch", touchUtility),
  ("basename", nameUtility),
  ("dirname", directoryUtility),
  ("uname", fun s => s.writes (Octets.ofText "Linux\n")),
  ("sync", (·.ends 0)),
  ("id", userUtility),
  ("whoami", fun s => s.writes (Octets.ofText "root\n"))]

/-- The utility with a name. -/
def utility? (name : Octets) : Option (Setting → Effect) :=
  (utilities.find? fun u => u.1.toList = name).map (·.2)

/-- The programs that run others. -/
def launchers : List String := ["env", "nice", "nohup", "timeout", "xargs", "which"]

/-- The shells. -/
def shells : List String := ["sh", "dash", "bash"]

/-- The programs that every host has. -/
def hostPrograms : List String := shells ++ launchers ++ utilities.map (·.1)

/-- The program of the host that a name, or a path into the directories of programs, is. -/
def hostProgram? (name : Octets) : Option String :=
  let base := if "/bin/".toList.isPrefixOf name then name.drop 5
    else if "/usr/bin/".toList.isPrefixOf name then name.drop 9
    else name
  hostPrograms.find? (·.toList = base)

end Conformance.Shell
