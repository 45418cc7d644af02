import Conformance.Json
import Conformance.Json.Error

/-!
# JSON numbers

A number without point and exponent is an integer if it fits into sixty-four bits, signed or not,
and is not a negative zero. All other numbers are doubles: the digits make a whole number of
sixty-four bits as long as they fit, the digits after that only move the exponent, and the whole
number is then multiplied or divided by a power of ten. The steps round, so the result is not always
the nearest double.
-/

namespace Conformance.Json

/-- The value of a decimal digit. -/
def digit? (c : Char) : Option Nat :=
  if '0' ≤ c ∧ c ≤ '9' then some (c.toNat - 48) else none

/-- Largest whole number of sixty-four bits. -/
def maxWord : Nat := 18446744073709551615

/-- Largest exponent that is counted. -/
def maxExponent : Nat := 2147483647

/-- Digits read into a whole number. -/
structure Digits where
  /-- The whole number. -/
  value : Nat
  /-- How many digits went into it. -/
  used : Nat
  /-- How many digits followed that did not fit. -/
  dropped : Nat
  /-- The text after the digits. -/
  rest : List Char
  deriving Repr

/-- Passes over digits. -/
def dropDigits (dropped : Nat) : List Char → Nat × List Char
  | [] => (dropped, [])
  | c :: rest => if (digit? c).isSome then dropDigits (dropped + 1) rest else (dropped, c :: rest)

/-- Appends the digits in front of the text to `value` until one does not fit below `bound`, and
passes over the others. -/
def readDigits (bound value used : Nat) : List Char → Digits
  | [] => ⟨value, used, 0, []⟩
  | c :: rest =>
    match digit? c with
    | none => ⟨value, used, 0, c :: rest⟩
    | some d =>
      if value * 10 + d ≤ bound then readDigits bound (value * 10 + d) (used + 1) rest
      else
        let (dropped, rest) := dropDigits 1 rest
        ⟨value, used, dropped, rest⟩

/-- The bits of a double, those of zero for a negative zero. -/
def bitsOf (f : Float) : UInt64 := if f == 0.0 then Float.toBits 0.0 else f.toBits

/-- Multiplies or divides `f` by a power of ten, in steps of at most 308 places; none if the product
is too large. -/
def scale (f : Float) (exponent : Int) : Nat → Option Float
  | 0 => some f
  | fuel + 1 =>
    if exponent.natAbs ≤ 308 then
      let power := Float.ofScientific 1 false exponent.natAbs
      if 0 ≤ exponent then
        let f := f * power
        if f.isInf then none else some f
      else some (f / power)
    else if f == 0.0 then some f
    else if 0 ≤ exponent then none
    else scale (f / Float.ofScientific 1 false 308) (exponent + 308) fuel

/-- The double for a whole number with a sign and an exponent; `rest` is the text after it. -/
def double? (negative : Bool) (value : Nat) (exponent : Int) (rest : List Char) :
    Except Fault (Json × List Char) :=
  match scale value.toUInt64.toFloat exponent 8 with
  | none => .error ⟨.numberOutOfRange, rest, 0⟩
  | some f => .ok (.double (bitsOf (if negative then -f else f)), rest)

/-- Reads what follows the letter of an exponent. -/
def exponentPart (negative : Bool) (value : Nat) (start : Int) (s : List Char) :
    Except Fault (Json × List Char) :=
  let (down, s) := match s with
    | '+' :: rest => (false, rest)
    | '-' :: rest => (true, rest)
    | rest => (false, rest)
  match s with
  | [] => .error ⟨.endInValue, [], 0⟩
  | c :: _ =>
    if (digit? c).isNone then .error ⟨.invalidNumber, s, 1⟩
    else
      let e := readDigits maxExponent 0 0 s
      if e.dropped = 0 then
        let exponent := if down then start - e.value else start + e.value
        double? negative value exponent e.rest
      else if value ≠ 0 && !down then
        .error ⟨.numberOutOfRange, s.drop (e.used + 1), 0⟩
      else .ok (.double (bitsOf 0.0), e.rest)

/-- Reads what follows the point. -/
def fractionPart (negative : Bool) (value : Nat) (start : Int) (s : List Char) :
    Except Fault (Json × List Char) :=
  let d := readDigits maxWord value 0 s
  if d.used = 0 && d.dropped = 0 then
    match s with
    | [] => .error ⟨.endInValue, [], 0⟩
    | _ => .error ⟨.invalidNumber, s, 1⟩
  else
    let exponent := start - d.used
    match d.rest with
    | 'e' :: rest | 'E' :: rest => exponentPart negative d.value exponent rest
    | rest => double? negative d.value exponent rest

/-- Reads what follows the whole part `value`, of which `dropped` digits did not fit. -/
def afterWhole (negative : Bool) (value dropped : Nat) (s : List Char) :
    Except Fault (Json × List Char) :=
  match s with
  | '.' :: rest => fractionPart negative value dropped rest
  | 'e' :: rest | 'E' :: rest => exponentPart negative value dropped rest
  | rest =>
    if dropped ≠ 0 then double? negative value dropped rest
    else if !negative then .ok (.int value, rest)
    else if value = 0 || Int64.minValue.toInt.natAbs < value then double? true value 0 rest
    else .ok (.int (-value), rest)

/-- Reads a number after its sign. -/
def readNumber (negative : Bool) (s : List Char) : Except Fault (Json × List Char) :=
  match s with
  | [] => .error ⟨.endInValue, [], 0⟩
  | '0' :: rest =>
    match rest with
    | c :: _ =>
      if (digit? c).isSome then .error ⟨.invalidNumber, rest, 1⟩
      else afterWhole negative 0 0 rest
    | [] => afterWhole negative 0 0 []
  | c :: _ =>
    if (digit? c).isSome then
      let d := readDigits maxWord 0 0 s
      afterWhole negative d.value d.dropped d.rest
    else .error ⟨.invalidNumber, s, 1⟩

end Conformance.Json
