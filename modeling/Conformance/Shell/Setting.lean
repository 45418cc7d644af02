import Conformance.FileTree
import Conformance.Shell.Format

/-!
# What a program does

A program that a script runs is a function of its name, its arguments, its input and the files.
`Setting.withOptions` reads the options of a program by the rules that most of them share.
-/

namespace Conformance.Shell

/-- The sentence for an error without its number. -/
def reasonOf (e : FileError) : String := (e.message.splitOn " (os error").headD ""

/-- What a program did. -/
structure Effect where
  out : Octets := []
  err : Octets := []
  /-- What a shell that the program is part of says about it. -/
  remarks : List String := []
  status : Nat := 0
  /-- The input that the program did not read. -/
  input : Octets
  files : FileTree

/-- The effect with something else that is written. -/
def Effect.write (e : Effect) (s : Octets) : Effect := { e with out := e.out ++ s }

/-- The effect with a complaint and another status. -/
def Effect.complain (e : Effect) (status : Nat) (s : String) : Effect :=
  { e with err := e.err ++ Octets.ofText (s ++ "\n"), status := status }

/-- What a program has to work with. -/
structure Setting where
  /-- The name that the program was called by. -/
  name : String
  args : List Octets
  input : Octets
  files : FileTree

namespace Setting

/-- A program that only ends. -/
def ends (s : Setting) (status : Nat) : Effect :=
  { status := status, input := s.input, files := s.files }

/-- A program that writes and ends. -/
def writes (s : Setting) (out : Octets) : Effect := { s.ends 0 with out := out }

/-- A program that writes lines and ends. -/
def writesLines (s : Setting) (ls : List Octets) : Effect := s.writes (ls.flatMap (· ++ ['\n']))

/-- A complaint of the program. -/
def complaint (s : Setting) (reason : String) : String := s.name ++ ": " ++ reason

/-- A program that complains and ends. -/
def fails (s : Setting) (status : Nat) (reason : String) : Effect :=
  (s.ends 0).complain status (s.complaint reason)

/-- A program that complains about the way in which it was called. -/
def misused (s : Setting) (status : Nat) (reason : String) : Effect :=
  s.fails status (reason ++ "\nTry '" ++ s.name ++ " --help' for more information.")

/-- A program of the shell that complains and ends. -/
def remarks (s : Setting) (status : Nat) (reasons : List String) : Effect :=
  { s.ends status with remarks := reasons.map s.complaint }

/-! ## Options -/

/-- The arguments of a program, told apart. -/
structure Options where
  letters : Octets := []
  /-- The letters that have values, with these. -/
  values : List (Char × Octets) := []
  operands : List Octets := []

namespace Options

/-- Is the option there? -/
def has (o : Options) (c : Char) : Bool := o.letters.contains c

/-- The value of an option; of several the last one counts. -/
def value? (o : Options) (c : Char) : Option Octets := (o.values.reverse.find? (·.1 = c)).map (·.2)

/-- Why arguments are refused. -/
inductive Fault where
  | unknown (c : Char)
  | unknownWord (s : Octets)
  | valueMissing (c : Char)

/-- The complaint about arguments. -/
def Fault.message : Fault → String
  | .unknown c => "invalid option -- '" ++ Octets.toText [c] ++ "'"
  | .unknownWord s => "unrecognized option '" ++ Octets.toText s ++ "'"
  | .valueMissing c => "option requires an argument -- '" ++ Octets.toText [c] ++ "'"

/-- Reads the letters of one argument: those without values up to one that has a value, which the
rest of the argument is. -/
def ofLetters (plain valued : Octets) : Octets → Except Fault (Octets × Option (Char × Octets))
  | [] => .ok ([], none)
  | c :: rest =>
    if valued.contains c then .ok ([], some (c, rest))
    else if plain.contains c then do
      let (letters, value) ← ofLetters plain valued rest
      return (c :: letters, value)
    else .error (.unknown c)

/-- Reads arguments. Options may stand behind operands, but not behind two hyphens. `words` are
those that stand for letters. -/
def ofArgs (words : List (String × Char)) (plain valued : Octets) :
    List Octets → Except Fault Options
  | [] => .ok {}
  | ['-', '-'] :: rest => .ok { operands := rest }
  | ('-' :: '-' :: word) :: rest =>
    match words.find? (·.1.toList = word) with
    | some (_, c) => do
      let o ← ofArgs words plain valued rest
      return { o with letters := c :: o.letters }
    | none => .error (.unknownWord ('-' :: '-' :: word))
  | ('-' :: c :: letters) :: rest =>
    match ofLetters plain valued (c :: letters) with
    | .error f => .error f
    | .ok (letters, none) => do
      let o ← ofArgs words plain valued rest
      return { o with letters := letters ++ o.letters }
    | .ok (letters, some (c, [])) =>
      match rest with
      | [] => .error (.valueMissing c)
      | value :: rest => do
        let o ← ofArgs words plain valued rest
        return { o with letters := letters ++ o.letters, values := (c, value) :: o.values }
    | .ok (letters, some value) => do
      let o ← ofArgs words plain valued rest
      return { o with letters := letters ++ o.letters, values := value :: o.values }
  | a :: rest => do
    let o ← ofArgs words plain valued rest
    return { o with operands := a :: o.operands }

/-- The options at the start of some arguments with their values, and the arguments from the first
operand on. -/
def leading (valued : Octets) : List Octets → List Octets × List Octets
  | [] => ([], [])
  | ['-', '-'] :: rest => ([], rest)
  | ('-' :: c :: letters) :: value :: rest =>
    if ((c :: letters).takeWhile (!valued.contains ·)).length = letters.length then
      let (options, operands) := leading valued rest
      (('-' :: c :: letters) :: value :: options, operands)
    else
      let (options, operands) := leading valued (value :: rest)
      (('-' :: c :: letters) :: options, operands)
  | [('-' :: c :: letters)] => ([('-' :: c :: letters)], [])
  | args => ([], args)

end Options

/-- Runs a program with its options told apart, or complains about them. -/
def withOptions (s : Setting) (status : Nat) (plain valued : String) (use : Options → Effect) :
    Effect :=
  let words := if plain.toList.contains 'q' then [("quiet", 'q'), ("silent", 'q')] else []
  match Options.ofArgs words plain.toList valued.toList s.args with
  | .ok o => use o
  | .error f => s.misused status f.message

/-! ## Input -/

/-- How many zeros the file that holds nothing else is taken to hold. -/
def zeroCount : Nat := 1048576

/-- The bytes of a file. -/
def read (s : Setting) (path : Octets) : Except FileError Octets :=
  if path = "/dev/null".toList then .ok []
  else if path = "/dev/zero".toList then .ok (List.replicate zeroCount '\x00')
  else (s.files.readBytes (Octets.toText path)).map Octets.ofBytes

/-- What files hold, each with its name, or the input if there are none; and an effect with
complaints about those that cannot be read. A hyphen is the input too. -/
def sourcesWith (s : Setting) (status : Nat) (complain : String → FileError → String) :
    List Octets → List (Octets × Octets) × Effect
  | [] => ([(['-'], s.input)], { s.ends 0 with input := [] })
  | paths => paths.foldl (fun (found, (e : Effect)) p =>
      if p = ['-'] then (found ++ [(p, e.input)], { e with input := [] })
      else
        match s.read p with
        | .ok content => (found ++ [(p, content)], e)
        | .error f => (found, e.complain status (s.complaint (complain (Octets.toText p) f))))
      ([], s.ends 0)

/-- What files hold, with the complaints that name the file and the reason. -/
def sources (s : Setting) (paths : List Octets) : List (Octets × Octets) × Effect :=
  s.sourcesWith 1 (fun path f => path ++ ": " ++ reasonOf f) paths

/-- The texts of files one behind the other, or the input if there are none. -/
def gather (s : Setting) (paths : List Octets) : Octets × Effect :=
  let (found, e) := s.sources paths
  (found.flatMap (·.2), e)

end Setting

end Conformance.Shell
