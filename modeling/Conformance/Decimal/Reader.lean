/-!
# Reading decimals

Texts of digits with a sign, a point and an exponent, as the nearest double; and whole numbers to a
base.
-/

namespace Conformance.Decimal

/-- A decimal as it is written: digits, of which so many stand behind the point, and an exponent. -/
structure Written where
  negative : Bool
  digits : List Char
  places : Nat
  exponent : Int
  deriving Repr, DecidableEq

/-- The number that decimal digits write. -/
def natOf (ds : List Char) : Nat := ds.foldl (fun n c => n * 10 + (c.toNat - 48)) 0

/-- The sign in front of a text, if any, and the text behind it. -/
def splitSign : List Char → Option Bool × List Char
  | '+' :: rest => (some false, rest)
  | '-' :: rest => (some true, rest)
  | rest => (none, rest)

/-- The exponent that a text behind its letter writes. -/
def exponent? (s : List Char) : Option Int :=
  let (sign, ds) := splitSign s
  if ds.isEmpty || !ds.all Char.isDigit then none
  else if sign = some true then some (-(natOf ds : Int)) else some (natOf ds)

/-- Reads a decimal; a digit may lack before or behind the point, but not on both sides. -/
def Written.ofChars? (s : List Char) : Option Written :=
  let (sign, s) := splitSign s
  let whole := s.takeWhile Char.isDigit
  let s := s.dropWhile Char.isDigit
  let (places, s) := match s with
    | '.' :: rest => (rest.takeWhile Char.isDigit, rest.dropWhile Char.isDigit)
    | rest => ([], rest)
  if whole.isEmpty && places.isEmpty then none
  else
    let number (e : Int) : Written := ⟨sign == some true, whole ++ places, places.length, e⟩
    match s with
    | [] => some (number 0)
    | 'e' :: rest | 'E' :: rest => (exponent? rest).map number
    | _ => none

/-- The nearest double; a decimal beyond all doubles gives an infinity or zero. -/
def Written.toFloat (w : Written) : Float :=
  let digits := w.digits.dropWhile (· = '0')
  let exponent := w.exponent - w.places
  let magnitude := exponent + digits.length
  let f : Float :=
    if digits.isEmpty || magnitude < -400 then 0.0
    else if 400 < magnitude then 1.0 / 0.0
    else Float.ofScientific (natOf digits) (exponent < 0) exponent.natAbs
  if w.negative then -f else f

/-- The value of a digit to a base up to 36. -/
def digitValue? (base : Nat) (c : Char) : Option Nat :=
  let v :=
    if c.isDigit then some (c.toNat - 48)
    else if 'a' ≤ c ∧ c ≤ 'z' then some (c.toNat - 87)
    else if 'A' ≤ c ∧ c ≤ 'Z' then some (c.toNat - 55)
    else none
  v.filter (· < base)

/-- The whole number that digits to a base write; there has to be a digit. -/
def natInBase? (base : Nat) (s : List Char) : Option Nat :=
  if s.isEmpty then none
  else s.foldlM (fun n c => (digitValue? base c).map (n * base + ·)) 0

end Conformance.Decimal
