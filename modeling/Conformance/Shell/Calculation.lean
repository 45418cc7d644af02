import Conformance.Shell.Expression
import Conformance.Shell.Setting

/-!
# Calculations

A program that gets a calculation as its arguments: each number, text, operator and parenthesis is
an argument of its own. `calculate` reads the arguments and computes as it goes, the operators that
bind weakest at the first level.
-/

namespace Conformance.Shell

/-- The integer that a text writes. -/
def integer? (s : Octets) : Option Int :=
  let (negative, digits) := match s with
    | '-' :: rest => (true, rest)
    | rest => (false, rest)
  if digits.isEmpty || !digits.all Char.isDigit then none
  else
    let n : Int := digits.foldl (fun n c => 10 * n + (c.toNat - 48)) 0
    some (if negative then -n else n)

/-- Is a value nothing, as a truth? -/
def isNothing (s : Octets) : Bool := s.isEmpty || integer? s = some 0

/-- Does the first text stand in front of the second? -/
def isBefore : Octets → Octets → Bool
  | _, [] => false
  | [], _ :: _ => true
  | a :: s, b :: t => a.toNat < b.toNat || (a = b && isBefore s t)

/-- A comparison of two values: of numbers if both are, or of texts. -/
def compared (numbers : Int → Int → Bool) (texts : Octets → Octets → Bool) (a b : Octets) :
    Except String Octets :=
  let holds := match integer? a, integer? b with
    | some m, some n => numbers m n
    | _, _ => texts a b
  .ok [if holds then '1' else '0']

/-- A sum of two values, which have to be numbers. -/
def computed (apply : Int → Int → Int) (isDivision : Bool) (a b : Octets) : Except String Octets :=
  match integer? a, integer? b with
  | some m, some n =>
    if isDivision && n = 0 then .error "division by zero" else .ok (Octets.ofInt (apply m n))
  | _, _ => .error "non-integer argument"

/-- The part at the start of a text for which an expression stands: the first group, or without one
the length. -/
def matchedStart (s pattern : Octets) : Except String Octets := do
  let (e, groups) ← Expression.read {} pattern
  match Expression.find? (.both .lineStart e) none s with
  | none => return if groups = 0 then ['0'] else []
  | some f => return if groups = 0 then Octets.ofInt f.part.length else f.group 1

/-- The operators by rising strength. -/
def calculationLevels : List (List (String × (Octets → Octets → Except String Octets))) :=
  [[("|", fun a b => .ok (if !isNothing a then a else if isNothing b then ['0'] else b))],
    [("&", fun a b => .ok (if isNothing a || isNothing b then ['0'] else a))],
    [("<", compared (· < ·) isBefore), ("<=", compared (· ≤ ·) fun a b => !isBefore b a),
      ("=", compared (· == ·) (· == ·)), ("==", compared (· == ·) (· == ·)),
      ("!=", compared (· != ·) (· != ·)), (">=", compared (· ≥ ·) fun a b => !isBefore a b),
      (">", compared (· > ·) fun a b => isBefore b a)],
    [("+", computed (· + ·) false), ("-", computed (· - ·) false)],
    [("*", computed (· * ·) false), ("/", computed Int.tdiv true), ("%", computed Int.tmod true)],
    [(":", matchedStart)]]

/-- The fault of a calculation that ends too early. -/
def missingBehind (before : Octets) : String :=
  "syntax error: missing argument after '" ++ Octets.toText before ++ "'"

mutual

/-- Reads a calculation from a level on; `before` is the argument in front. -/
def calculate : Nat → List (List (String × (Octets → Octets → Except String Octets))) → Octets →
    List Octets → Except String (Octets × Octets × List Octets)
  | 0, _, _, _ => .error "syntax error"
  | _, [], before, [] => .error (missingBehind before)
  | fuel + 1, [], _, a :: rest => do
    let operand (before : Octets) (rest : List Octets) :
        Except String (Octets × Octets × List Octets) :=
      calculate fuel [] before rest
    match String.ofList a with
    | "(" =>
      let (value, before, rest) ← calculate fuel calculationLevels a rest
      match rest with
      | [')'] :: rest => return (value, [')'], rest)
      | [] => .error ("syntax error: expecting ')' after '" ++ Octets.toText before ++ "'")
      | x :: _ => .error ("syntax error: expecting ')' instead of '" ++ Octets.toText x ++ "'")
    | ")" => .error "syntax error: unexpected ')'"
    | "+" =>
      match rest with
      | [] => .error (missingBehind a)
      | x :: rest => return (x, x, rest)
    | "length" =>
      let (s, before, rest) ← operand a rest
      return (Octets.ofInt s.length, before, rest)
    | "match" =>
      let (s, before, rest) ← operand a rest
      let (pattern, before, rest) ← operand before rest
      return (← matchedStart s pattern, before, rest)
    | "index" =>
      let (s, before, rest) ← operand a rest
      let (set, before, rest) ← operand before rest
      let n := (s.takeWhile (!set.contains ·)).length
      return (Octets.ofInt (if n < s.length then (n : Int) + 1 else 0), before, rest)
    | "substr" =>
      let (s, before, rest) ← operand a rest
      let (start, before, rest) ← operand before rest
      let (length, before, rest) ← operand before rest
      let part := match integer? start, integer? length with
        | some i, some n => if 0 < i && 0 < n then (s.drop (i.toNat - 1)).take n.toNat else []
        | _, _ => []
      return (part, before, rest)
    | _ => return (a, a, rest)
  | fuel + 1, level :: levels, before, args => do
    let (value, before, rest) ← calculate fuel levels before args
    calculateOn fuel level levels value before rest

/-- Reads on behind a first operand. -/
def calculateOn : Nat → List (String × (Octets → Octets → Except String Octets)) →
    List (List (String × (Octets → Octets → Except String Octets))) → Octets → Octets →
    List Octets → Except String (Octets × Octets × List Octets)
  | 0, _, _, _, _, _ => .error "syntax error"
  | _, _, _, value, before, [] => .ok (value, before, [])
  | fuel + 1, level, levels, value, before, a :: rest =>
    match level.find? (·.1.toList = a) with
    | none => .ok (value, before, a :: rest)
    | some (_, apply) => do
      let (other, before, rest) ← calculate fuel levels a rest
      calculateOn fuel level levels (← apply value other) before rest

end

/-- Writes the value of a calculation, and fails if it is nothing. -/
def calculationUtility (s : Setting) : Effect :=
  match s.args with
  | [] => s.misused 2 "missing operand"
  | args =>
    match calculate (8 * args.length + 64) calculationLevels [] args with
    | .error reason => s.fails 2 reason
    | .ok (_, _, x :: _) =>
      s.fails 2 ("syntax error: unexpected argument '" ++ Octets.toText x ++ "'")
    | .ok (value, _, []) =>
      { s.writes (value ++ ['\n']) with status := if isNothing value then 1 else 0 }

end Conformance.Shell
