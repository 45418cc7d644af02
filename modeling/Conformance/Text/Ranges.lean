/-!
# Ranges of code points

A class of characters is a table of closed ranges of code points, in rising order. `memRanges`
searches a table by halving.
-/

namespace Conformance.Text

/-- Does some range of `table` between the places `lo` and `hi` hold `n`? -/
def memRangesBetween (table : Array (Nat × Nat)) (n : Nat) : Nat → Nat → Nat → Bool
  | 0, _, _ => false
  | fuel + 1, lo, hi =>
    if lo < hi then
      let mid := (lo + hi) / 2
      match table[mid]? with
      | none => false
      | some (first, last) =>
        if n < first then memRangesBetween table n fuel lo mid
        else if last < n then memRangesBetween table n fuel (mid + 1) hi
        else true
    else false

/-- Does some range of the rising `table` hold `n`? -/
def memRanges (table : Array (Nat × Nat)) (n : Nat) : Bool :=
  memRangesBetween table n (table.size + 1) 0 table.size

end Conformance.Text
