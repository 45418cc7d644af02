import Conformance.Decimal.Shortest

/-!
# Doubles with a chosen number of digits

A finite double is a fraction, and `rounded` gives the nearest of its multiples of a power of ten,
where a half goes to the even neighbour. The texts with and without an exponent are written from
that.
-/

namespace Conformance.Decimal

/-- The nearest whole number to a fraction; a half goes to the even neighbour. -/
def roundDiv (num den : Nat) : Nat :=
  let n := num / den
  let twice := 2 * (num % den)
  if twice < den then n else if den < twice then n + 1 else n + n % 2

/-- The value of a finite double as a fraction. -/
def Parts.fraction (p : Parts) : Nat × Nat :=
  (p.mantissa * Nat.pow 2 (p.exponent - 1075), Nat.pow 2 (1075 - p.exponent))

/-- The nearest number of units of `10 ^ (-places)`. -/
def Parts.rounded (p : Parts) (places : Int) : Nat :=
  let (num, den) := p.fraction
  roundDiv (num * Nat.pow 10 places.toNat) (den * Nat.pow 10 (-places).toNat)

/-- The text of a number of units of a decimal place. -/
def placed (places n : Nat) : List Char :=
  let ds := Nat.toDigits 10 n
  let ds := List.replicate (places + 1 - ds.length) '0' ++ ds
  let whole := ds.take (ds.length - places)
  whole ++ if places = 0 then [] else '.' :: ds.drop whole.length

/-- The text with so many decimal places. -/
def Parts.fixed (p : Parts) (places : Nat) : List Char := placed places (p.rounded places)

/-- The exponent of the first digit of the value: the greatest power of ten that is not above it. -/
def Parts.leading (p : Parts) : Int :=
  let (num, den) := p.fraction
  if num = 0 then 0
  else if den ≤ num then (magnitude num den 400 0 : Nat) - 1
  else
    -- The inverse lies between two powers of ten; where it is one itself, that one counts.
    let k : Nat := magnitude den num 400 0
    if den = num * Nat.pow 10 (k - 1) then -((k : Int) - 1) else -(k : Int)

/-- The digits of a value with so many of them behind the first one, and the exponent of the first.
-/
def Parts.scientificDigits (p : Parts) (places : Nat) : Nat × Int :=
  let e := p.leading
  let n := p.rounded (places - e)
  if Nat.pow 10 (places + 1) ≤ n then (n / 10, e + 1) else (n, e)

/-- The text of an exponent: a letter, a sign and at least two digits. -/
def exponentText (e : Int) : List Char :=
  let ds := Nat.toDigits 10 e.natAbs
  'e' :: (if e < 0 then '-' else '+') :: List.replicate (2 - ds.length) '0' ++ ds

/-- The text with an exponent and so many digits behind the first one. -/
def Parts.scientific (p : Parts) (places : Nat) : List Char :=
  let (n, e) := p.scientificDigits places
  placed places n ++ exponentText e

/-- A text without zeros at the end of its decimal places, and without a point there. -/
def dropZeros (s : List Char) : List Char :=
  if s.contains '.' then
    let s := (s.reverse.dropWhile (· = '0')).reverse
    if s.getLast? = some '.' then s.dropLast else s
  else s

/-- The text with so many digits at most, with an exponent where it is far from zero. -/
def Parts.general (p : Parts) (count : Nat) (keepsZeros : Bool) : List Char :=
  let count := max count 1
  let (n, e) := p.scientificDigits (count - 1)
  let drop (s : List Char) : List Char := if keepsZeros then s else dropZeros s
  if e < -4 || count ≤ e then drop (placed (count - 1) n) ++ exponentText e
  else drop (p.fixed (count - 1 - e).toNat)

end Conformance.Decimal
