import Conformance.Shell.Number

/-!
# Sums in a script

A sum is a formula over whole numbers of 64 bits, with the operators and the precedence that such
formulas usually have. It is read and computed in one pass, so that an operand that has no value is
complained about before anything that stands behind it.
-/

namespace Conformance.Shell.Formula

/-- A token of a formula. -/
inductive Token where
  | number (n : Int64)
  | name (s : Octets)
  | mark (s : String)
  /-- A character that has no place in formulas. -/
  | stray
  deriving DecidableEq

/-- Why a formula has no value. -/
inductive Fault where
  | operandMissing
  | parenthesisMissing
  | colonMissing
  | notEnded
  | divisionByZero
  | illegalNumber (s : Octets)
  deriving Repr, DecidableEq

/-- The complaint about a formula. -/
def Fault.message (source : Octets) : Fault → String
  | .operandMissing => about "expecting primary"
  | .parenthesisMissing => about "expecting ')'"
  | .colonMissing => about "expecting ':'"
  | .notEnded => about "expecting EOF"
  | .divisionByZero => about "division by zero"
  | .illegalNumber s => "Illegal number: " ++ Octets.toText s
where
  /-- A complaint with the formula. -/
  about (reason : String) : String :=
    "arithmetic expression: " ++ reason ++ ": \"" ++ Octets.toText source ++ "\""

/-! ## Numbers -/

/-- The blanks of formulas. -/
def isBlank (c : Char) : Bool := c = ' ' || c = '\t' || c = '\n'

/-- The number that a variable's value writes. No value is zero. -/
def numberOf (s : Octets) : Except Fault Int64 :=
  match Numeral.ofText? s with
  | some n =>
    if !n.rest.all isSpace || greatest + (if n.isNegative then 1 else 0) < n.magnitude then
      .error (.illegalNumber s)
    else .ok (Int64.ofInt n.value)
  | none => if s.all isSpace then .ok 0 else .error (.illegalNumber s)

/-! ## Tokens -/

/-- The marks, longer ones first. -/
def marks : List String :=
  ["<<=", ">>=", "==", "!=", "<=", ">=", "&&", "||", "<<", ">>", "+=", "-=", "*=", "/=", "%=", "&=",
    "^=", "|=", "=", "<", ">", "&", "|", "^", "!", "~", "+", "-", "*", "/", "%", "?", ":", "(", ")"]

/-- The tokens of a formula. -/
def tokens : Nat → Octets → List Token
  | 0, _ | _, [] => []
  | fuel + 1, c :: rest =>
    if isBlank c then tokens fuel rest
    else if c.isDigit then
      let (n, rest) := magnitude (c :: rest)
      .number (Int64.ofInt (min n greatest)) :: tokens fuel rest
    else if c.isAlpha || c = '_' then
      let inside (c : Char) : Bool := c.isAlphanum || c = '_'
      .name ((c :: rest).takeWhile inside) :: tokens fuel ((c :: rest).dropWhile inside)
    else
      match marks.find? fun m => m.toList.isPrefixOf (c :: rest) with
      | some m => .mark m :: tokens fuel (rest.drop (m.length - 1))
      | none => [.stray]

/-! ## Operators -/

/-- One for what is true and zero for what is false. -/
def ofTruth (b : Bool) : Int64 := if b then 1 else 0

/-- The strength of an operator with two operands, from the weakest on; the two that need not
compute their second operand are none of them. -/
def strength? : String → Option Nat
  | "|" => some 0
  | "^" => some 1
  | "&" => some 2
  | "==" | "!=" => some 3
  | "<" | "<=" | ">" | ">=" => some 4
  | "<<" | ">>" => some 5
  | "+" | "-" => some 6
  | "*" | "/" | "%" => some 7
  | _ => none

/-- The value of an operator with two operands. -/
def apply (operator : String) (a b : Int64) : Except Fault Int64 :=
  match operator with
  | "|" => .ok (a ||| b)
  | "^" => .ok (a ^^^ b)
  | "&" => .ok (a &&& b)
  | "==" => .ok (ofTruth (a == b))
  | "!=" => .ok (ofTruth (a != b))
  | "<" => .ok (ofTruth (a < b))
  | "<=" => .ok (ofTruth (a ≤ b))
  | ">" => .ok (ofTruth (b < a))
  | ">=" => .ok (ofTruth (b ≤ a))
  | "<<" => .ok (a <<< b)
  | ">>" => .ok (a >>> b)
  | "+" => .ok (a + b)
  | "-" => .ok (a - b)
  | "*" => .ok (a * b)
  | "/" => if b = 0 then .error .divisionByZero else .ok (a / b)
  | _ => if b = 0 then .error .divisionByZero else .ok (a % b)

/-- The operator that an assignment applies before it assigns. -/
def assignment? (mark : String) : Option (Option String) :=
  if mark = "=" then some none
  else if ["<<=", ">>=", "+=", "-=", "*=", "/=", "%=", "&=", "^=", "|="].contains mark then
    some (some (String.ofList mark.toList.dropLast))
  else none

/-! ## Reading and computing -/

/-- What is left to read, and the variables that got values, the latest first. -/
structure Reader where
  tokens : List Token
  assigned : List (Octets × Int64) := []

/-- A step that reads and computes. -/
abbrev Step := StateT Reader (Except Fault)

/-- The mark that stands next, if one does. -/
def mark? : Step (Option String) := do
  match (← get).tokens with
  | .mark m :: _ => return some m
  | _ => return none

/-- Goes on behind the token that stands next. -/
def advance : Step Unit := modify fun r => { r with tokens := r.tokens.drop 1 }

/-- Goes on behind a mark, or fails. -/
def expect (mark : String) (fault : Fault) : Step Unit := do
  if (← mark?) = some mark then advance else throw fault

/-- The value of a variable. -/
def valueOf (value : Octets → Option Octets) (name : Octets) : Step Int64 := do
  match (← get).assigned.find? (·.1 = name) with
  | some (_, n) => return n
  | none => numberOf ((value name).getD [])

mutual

/-- Reads an operand. Where `live` does not hold, the value is not used, and nothing is assigned. -/
def operand (value : Octets → Option Octets) : Nat → Bool → Step Int64
  | 0, _ => throw .operandMissing
  | fuel + 1, live => do
    match (← get).tokens with
    | .number n :: _ =>
      advance
      return n
    | .name s :: _ =>
      advance
      if live then valueOf value s else return 0
    | .mark "(" :: _ =>
      advance
      let n ← whole value fuel live
      expect ")" .parenthesisMissing
      return n
    | .mark "+" :: _ =>
      advance
      operand value fuel live
    | .mark "-" :: _ =>
      advance
      return -(← operand value fuel live)
    | .mark "!" :: _ =>
      advance
      return ofTruth ((← operand value fuel live) == 0)
    | .mark "~" :: _ =>
      advance
      return ~~~(← operand value fuel live)
    | _ => throw .operandMissing

/-- Reads operands joined by operators of a strength or a greater one. -/
def joined (value : Octets → Option Octets) : Nat → Bool → Nat → Step Int64
  | 0, _, _ => throw .operandMissing
  | fuel + 1, live, least => do
    let n ← operand value fuel live
    joinedTo value fuel live least n

/-- Reads on behind a first operand. -/
def joinedTo (value : Octets → Option Octets) : Nat → Bool → Nat → Int64 → Step Int64
  | 0, _, _, n => return n
  | fuel + 1, live, least, n => do
    match ← mark? with
    | none => return n
    | some m =>
      match strength? m with
      | none => return n
      | some k =>
        if k < least then return n
        else
          advance
          let b ← joined value fuel live (k + 1)
          let n ← if live then apply m n b else pure b
          joinedTo value fuel live least n

/-- Reads formulas that have to hold together. -/
def conjunction (value : Octets → Option Octets) : Nat → Bool → Step Int64
  | 0, _ => throw .operandMissing
  | fuel + 1, live => do
    let a ← joined value fuel live 0
    if (← mark?) = some "&&" then
      advance
      let b ← conjunction value fuel (live && a != 0)
      return ofTruth (a != 0 && b != 0)
    else return a

/-- Reads formulas of which one has to hold. -/
def disjunction (value : Octets → Option Octets) : Nat → Bool → Step Int64
  | 0, _ => throw .operandMissing
  | fuel + 1, live => do
    let a ← conjunction value fuel live
    if (← mark?) = some "||" then
      advance
      let b ← disjunction value fuel (live && a == 0)
      return ofTruth (a != 0 || b != 0)
    else return a

/-- Reads a formula that selects one of two others. -/
def selection (value : Octets → Option Octets) : Nat → Bool → Step Int64
  | 0, _ => throw .operandMissing
  | fuel + 1, live => do
    let a ← disjunction value fuel live
    if (← mark?) = some "?" then
      advance
      let b ← whole value fuel (live && a != 0)
      expect ":" .colonMissing
      let c ← selection value fuel (live && a == 0)
      return if a != 0 then b else c
    else return a

/-- Reads a formula, which may assign its value to a variable. -/
def whole (value : Octets → Option Octets) : Nat → Bool → Step Int64
  | 0, _ => throw .operandMissing
  | fuel + 1, live => do
    match (← get).tokens with
    | .name s :: .mark m :: rest =>
      match assignment? m with
      | none => selection value fuel live
      | some operator =>
        modify ({ · with tokens := rest })
        let n ← whole value fuel live
        if live then
          let n ← match operator with
            | none => pure n
            | some o => do apply o (← valueOf value s) n
          modify fun r => { r with assigned := (s, n) :: r.assigned }
          return n
        else return n
    | _ => selection value fuel live

end

/-- The value of a formula, and the variables that it gives values, in that order. -/
def evaluate (value : Octets → Option Octets) (source : Octets) :
    Except Fault (Int64 × List (Octets × Int64)) := do
  let ts := tokens (source.length + 1) source
  let (n, r) ← (whole value (16 * ts.length + 16) true).run ⟨ts, []⟩
  if r.tokens.isEmpty then return (n, r.assigned.reverse) else throw .notEnded

end Conformance.Shell.Formula
