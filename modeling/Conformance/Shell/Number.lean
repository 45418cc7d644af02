import Conformance.Shell.Octets

/-!
# Numbers in scripts

A whole number is written with a sign and digits, of which the first ones say to what base it is
written: a zero for the base eight, and a zero with the letter x behind it for the base sixteen.
-/

namespace Conformance.Shell

/-- The value of a digit to a base up to sixteen. -/
def digit? (base : Nat) (c : Char) : Option Nat :=
  let d := if c.isDigit then c.toNat - 48
    else if 'a' ≤ c.toLower && c.toLower ≤ 'f' then c.toLower.toNat - 87
    else 16
  if d < base then some d else none

/-- The digits to a base at the start of a text: their value and the text behind them. -/
def digits (base value : Nat) : Octets → Nat × Octets
  | [] => (value, [])
  | c :: rest =>
    match digit? base c with
    | some d => digits base (base * value + d) rest
    | none => (value, c :: rest)

/-- The number at the start of a text, whose first characters say what base it has, and the text
behind it. -/
def magnitude (s : Octets) : Nat × Octets :=
  match s with
  | '0' :: x :: c :: rest =>
    if (x = 'x' || x = 'X') && (digit? 16 c).isSome then digits 16 0 (c :: rest)
    else digits 8 0 s
  | '0' :: _ => digits 8 0 s
  | _ => digits 10 0 s

/-- Is the character a blank or the end of a line? -/
def isSpace (c : Char) : Bool := c = ' ' || ('\t' ≤ c && c ≤ '\r')

/-- A number at the start of a text. -/
structure Numeral where
  isNegative : Bool
  magnitude : Nat
  /-- The text behind the number. -/
  rest : Octets

/-- The number at the start of a text, behind blanks. -/
def Numeral.ofText? (s : Octets) : Option Numeral :=
  let (isNegative, text) := match s.dropWhile isSpace with
    | '-' :: rest => (true, rest)
    | '+' :: rest => (false, rest)
    | text => (false, text)
  if (text.head?.map Char.isDigit).getD false then
    let (n, rest) := Shell.magnitude text
    some ⟨isNegative, n, rest⟩
  else none

/-- The number with its sign. -/
def Numeral.value (n : Numeral) : Int := if n.isNegative then -(n.magnitude : Int) else n.magnitude

/-- The greatest number of 64 bits with a sign. -/
def greatest : Nat := 9223372036854775807

/-- A whole number that digits without a sign write. -/
def count? (s : Octets) : Option Nat :=
  if !s.isEmpty && s.all Char.isDigit then some (Nat.ofDigitChars 10 s 0) else none

end Conformance.Shell
