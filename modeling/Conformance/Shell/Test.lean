import Conformance.Shell.Setting

/-!
# Tests

The utility with which scripts compare texts and numbers and look for files. A test is read from the
arguments: operators stand in front of an operand or between two, and tests are joined as in
formulas.
-/

namespace Conformance.Shell.Test

/-- What an argument is. -/
inductive Kind where
  | operand
  | unary
  | binary
  | conjunction
  | disjunction
  | negation
  | opening
  | closing
  deriving Repr, DecidableEq

/-- The operators in front of an operand. -/
def unaryOperators : List String :=
  ["-r", "-w", "-x", "-e", "-f", "-d", "-c", "-b", "-p", "-u", "-g", "-k", "-s", "-t", "-z", "-n",
    "-h", "-O", "-G", "-L", "-S"]

/-- The operators between two operands. -/
def binaryOperators : List String :=
  ["=", "!=", "<", ">", "-eq", "-ne", "-ge", "-gt", "-le", "-lt", "-nt", "-ot", "-ef"]

/-- What an argument is where it can be an operator. -/
def kindOf (a : Octets) : Kind :=
  let s := String.ofList a
  if unaryOperators.contains s then .unary
  else if binaryOperators.contains s then .binary
  else if s = "-a" then .conjunction
  else if s = "-o" then .disjunction
  else if s = "!" then .negation
  else if s = "(" then .opening
  else if s = ")" then .closing
  else .operand

/-- What the first of some arguments is. An operator with nothing behind it that it could apply to
is an operand. -/
def firstKind : List Octets → Option Kind
  | [] => none
  | a :: rest =>
    match kindOf a, rest with
    | .unary, [] | .opening, [] => some .operand
    | .unary, x :: _ :: _ => if kindOf x = .binary then some .operand else some .unary
    | k, _ => some k

/-- Why a test has no truth. -/
inductive Fault where
  | argumentMissing (operator : Octets)
  | parenthesisMissing
  | illegalNumber (s : Octets)
  | unexpectedOperator (s : Octets)
  deriving Repr, DecidableEq

/-- The complaint about a test. -/
def Fault.message : Fault → String
  | .argumentMissing o => about o "argument expected"
  | .parenthesisMissing => "closing paren expected"
  | .illegalNumber s => "Illegal number: " ++ Octets.toText s
  | .unexpectedOperator s => about s "unexpected operator"
where
  /-- A complaint about an argument. -/
  about (a : Octets) (reason : String) : String :=
    if a.isEmpty then reason else Octets.toText a ++ ": " ++ reason

/-- The number that an operand writes. -/
def number (s : Octets) : Except Fault Int :=
  let text := ((s.dropWhile isSpace).reverse.dropWhile isSpace).reverse
  let digits := match text with
    | '-' :: rest | '+' :: rest => rest
    | _ => text
  if digits.isEmpty || !digits.all Char.isDigit then .error (.illegalNumber s)
  else
    let n : Int := Nat.ofDigitChars 10 digits 0
    let n := if text.head? = some '-' then -n else n
    if -9223372036854775808 ≤ n && n ≤ 9223372036854775807 then .ok n else .error (.illegalNumber s)

/-- A test of one operand. -/
def unary (files : FileTree) (operator a : Octets) : Except Fault Bool :=
  let path := Octets.toText a
  match String.ofList operator with
  | "-n" => .ok !a.isEmpty
  | "-z" => .ok a.isEmpty
  | "-e" | "-r" | "-w" | "-O" | "-G" => .ok (files.exists? path)
  | "-f" => .ok (files.exists? path && !files.isDirectory path)
  | "-d" => .ok (files.isDirectory path)
  | "-s" => .ok (((files.readBytes path).toOption.map (!·.isEmpty)).getD (files.isDirectory path))
  | "-x" => .ok (match files.find path with
    | .ok (_, .file _ x) => x
    | .ok (_, .directory) => true
    | .error _ => false)
  | "-t" => (number a).map fun _ => false
  | _ => .ok false

/-- A test of two operands. -/
def binary (files : FileTree) (a operator b : Octets) : Except Fault Bool :=
  let numbers (holds : Int → Int → Bool) : Except Fault Bool := do
    let x ← number a
    return holds x (← number b)
  match String.ofList operator with
  | "=" => .ok (a == b)
  | "!=" => .ok (a != b)
  | "<" => .ok (decide (a < b))
  | ">" => .ok (decide (b < a))
  | "-eq" => numbers (· == ·)
  | "-ne" => numbers (· != ·)
  | "-lt" => numbers (· < ·)
  | "-le" => numbers (· ≤ ·)
  | "-gt" => numbers (· > ·)
  | "-ge" => numbers (· ≥ ·)
  | "-ef" => .ok (match files.find (Octets.toText a), files.find (Octets.toText b) with
    | .ok (p, _), .ok (q, _) => p == q
    | _, _ => false)
  | _ => .ok false

/-- The truth of a test, the last argument that was read, and the arguments behind it. -/
abbrev Reading := Bool × Octets × List Octets

mutual

/-- Reads a test that is not joined to others. `first` says what the first argument is. -/
def primary (files : FileTree) : Nat → Option Kind → List Octets → Except Fault Reading
  | 0, _, args => .ok (false, [], args)
  | _, none, _ | _, _, [] => .ok (false, [], [])
  | fuel + 1, some first, a :: rest =>
    match first with
    | .opening =>
      if firstKind rest = some .closing then .ok (false, [')'], rest.drop 1)
      else do
        let (b, _, rest) ← disjunction files fuel (firstKind rest) rest
        if firstKind rest = some .closing then return (b, [')'], rest.drop 1)
        else throw .parenthesisMissing
    | .unary =>
      match rest with
      | [] => .error (.argumentMissing a)
      | x :: rest => do return (← unary files a x, x, rest)
    | _ =>
      match firstKind rest, rest with
      | some .binary, [o] => .error (.argumentMissing o)
      | some .binary, o :: b :: rest => do return (← binary files a o b, b, rest)
      | _, rest => .ok (!a.isEmpty, a, rest)

/-- Reads a test that may be turned into its opposite. -/
def negation (files : FileTree) : Nat → Option Kind → List Octets → Except Fault Reading
  | 0, _, args => .ok (false, [], args)
  | fuel + 1, first, args =>
    match first, args with
    | some .negation, a :: rest => do
      let (b, last, rest) ← negation files fuel (firstKind rest) rest
      return (!b, if rest.isEmpty && last.isEmpty then a else last, rest)
    | first, args => primary files fuel first args

/-- Reads tests that have to hold together. -/
def conjunction (files : FileTree) : Nat → Option Kind → List Octets → Except Fault Reading
  | 0, _, args => .ok (false, [], args)
  | fuel + 1, first, args => do
    let (b, last, rest) ← negation files fuel first args
    if firstKind rest = some .conjunction then
      let (c, last, rest) ← conjunction files fuel (firstKind (rest.drop 1)) (rest.drop 1)
      return (b && c, last, rest)
    else return (b, last, rest)

/-- Reads tests of which one has to hold. -/
def disjunction (files : FileTree) : Nat → Option Kind → List Octets → Except Fault Reading
  | 0, _, args => .ok (false, [], args)
  | fuel + 1, first, args => do
    let (b, last, rest) ← conjunction files fuel first args
    if firstKind rest = some .disjunction then
      let (c, last, rest) ← disjunction files fuel (firstKind (rest.drop 1)) (rest.drop 1)
      return (b || c, last, rest)
    else return (b, last, rest)

end

/-- The truth of a test as a whole. Few arguments are read by their number. -/
def holds (files : FileTree) : Nat → List Octets → Except Fault Bool
  | 0, _ | _, [] => .ok false
  | fuel + 1, args =>
    match args with
    | [a, o, b] => if kindOf o = .binary then binary files a o b else grouped fuel args
    | [_, _, _, _] => grouped fuel args
    | args => joined (firstKind args) args
where
  /-- Reads arguments of which the first and the last may be parentheses around the others. -/
  grouped (fuel : Nat) (args : List Octets) : Except Fault Bool :=
    if args.head? = some ['('] && args.getLast? = some [')'] then
      let inner := (args.drop 1).dropLast
      joined (firstKind inner) inner
    else if args.head? = some ['!'] then (holds files fuel (args.drop 1)).map (!·)
    else joined (firstKind args) args
  /-- Reads arguments by their operators, and no argument may be left. -/
  joined (first : Option Kind) (args : List Octets) : Except Fault Bool := do
    let (b, last, rest) ← disjunction files (4 * args.length + 8) first args
    if rest.isEmpty then return b else throw (.unexpectedOperator last)

end Conformance.Shell.Test

namespace Conformance.Shell

/-- Ends well if a test holds. -/
def testUtility (s : Setting) : Effect :=
  match Test.holds s.files (s.args.length + 1) s.args with
  | .ok b => s.ends (if b then 0 else 1)
  | .error f => s.remarks 2 [f.message]

end Conformance.Shell
