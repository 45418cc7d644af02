/-!
# The shortest decimal of a double

A finite double stands for all real numbers nearer to it than to any other double. `shortest` finds
a decimal with the fewest digits among those numbers, and of several the nearest to the double;
`positional` writes it without an exponent.
-/

namespace Conformance.Decimal

/-- Is the sign of a double a minus? -/
def signField (bits : UInt64) : Bool := (bits >>> 63).toNat = 1

/-- The eleven bits of a double that hold its exponent. -/
def exponentField (bits : UInt64) : Nat := (bits >>> 52).toNat % 2048

/-- The weight of the bit in front of the stored fraction of a double. -/
def hiddenBit : Nat := Nat.pow 2 52

/-- The bits of a double that hold its fraction. -/
def fractionField (bits : UInt64) : Nat := bits.toNat % hiddenBit

/-- The double `mantissa * 2 ^ (exponent - 1075)`, without its sign. The numbers halfway to its
neighbours read back as it exactly if `mantissa` is even. -/
structure Parts where
  mantissa : Nat
  exponent : Nat
  deriving Repr, DecidableEq

/-- The parts of a finite double given by its bits. -/
def Parts.ofBits (bits : UInt64) : Parts :=
  if exponentField bits = 0 then ⟨fractionField bits, 1⟩
  else ⟨fractionField bits + hiddenBit, exponentField bits⟩

/-- The value and the two ends of its interval over one denominator, which is the last part. -/
def Parts.interval (p : Parts) : Nat × Nat × Nat × Nat :=
  let scale := Nat.pow 2 (p.exponent - 1075)
  let den := 4 * Nat.pow 2 (1075 - p.exponent)
  let gap := if p.mantissa = hiddenBit ∧ p.exponent > 1 then 1 else 2
  (4 * p.mantissa * scale, (4 * p.mantissa - gap) * scale, (4 * p.mantissa + 2) * scale, den)

/-- Least `k` from `from` on with `num < den * 10 ^ k`. -/
def magnitude (num den : Nat) : Nat → Nat → Nat
  | 0, k => k
  | fuel + 1, k => if num < den * Nat.pow 10 k then k else magnitude num den fuel (k + 1)

/-- The decimal `digits * 10 ^ (-places)`. -/
structure Grid where
  digits : Nat
  places : Int
  deriving Repr, DecidableEq

/-- The better of the two multiples of `10 ^ (-places)` about the value, if one is in the interval.
-/
def Parts.onGrid (p : Parts) (places : Int) : Option Grid :=
  let (value, low, high, den) := p.interval
  let up := Nat.pow 10 places.toNat
  let down := Nat.pow 10 (-places).toNat
  let value := value * up
  let low := low * up
  let high := high * up
  let den := den * down
  let inside (d : Nat) : Bool :=
    if p.mantissa % 2 = 0 then low ≤ d * den && d * den ≤ high else low < d * den && d * den < high
  let d := value / den
  let below := value - d * den
  let above := (d + 1) * den - value
  if inside d && (below ≤ above || !inside (d + 1)) && d ≠ 0 then some ⟨d, places⟩
  else if inside (d + 1) then some ⟨d + 1, places⟩
  else none

/-- The first hit on finer and finer grids. -/
def Parts.search (p : Parts) : Nat → Int → Grid
  | 0, places => ⟨0, places⟩
  | fuel + 1, places => (p.onGrid places).getD (p.search fuel (places + 1))

/-- The shortest decimal that reads back as the double. -/
def Parts.shortest (p : Parts) : Grid :=
  let (value, _, _, den) := p.interval
  let k : Int :=
    if value < den then -(magnitude den (max value 1) 400 0 : Nat) + 1
    else (magnitude value den 400 0 : Nat)
  p.search 40 (-k)

/-- Writes the double without an exponent, with at least one place after the point. -/
def positional (bits : UInt64) : String :=
  let sign := if signField bits then "-" else ""
  let p := Parts.ofBits bits
  if p.mantissa = 0 then sign ++ "0.0"
  else
    let g := p.shortest
    let ds := toString g.digits
    if g.places ≤ 0 then
      sign ++ ds ++ String.ofList (List.replicate (-g.places).toNat '0') ++ ".0"
    else
      let n := g.places.toNat
      let ds := (List.replicate (n + 1 - ds.length) '0') ++ ds.toList
      let cut := ds.length - n
      sign ++ String.ofList (ds.take cut) ++ "." ++ String.ofList (ds.drop cut)

end Conformance.Decimal
