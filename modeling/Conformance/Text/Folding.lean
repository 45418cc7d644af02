import Conformance.Text.Folding.Letters
import Conformance.Text.Folding.Words
import Conformance.Text.Joining

/-!
# Folding

Texts that a reader takes for the same name have one folded form: capitals become small letters,
variants of a letter become the letter, signs that stand for several letters are written out, and
what is not seen is left out. Some characters have no place in a name; `fold?` refuses them. The
signs that join letters or keep them apart stay.
-/

namespace Conformance.Text

/-- Characters that are left out. -/
def leftOut : Array (Nat × Nat) := #[
  (0xAD, 0xAD), (0x34F, 0x34F), (0x115F, 0x1160), (0x17B4, 0x17B5), (0x180B, 0x180F),
  (0x200B, 0x200B), (0x2060, 0x2064), (0x206A, 0x206F), (0x3164, 0x3164), (0xFE00, 0xFE0F),
  (0xFEFF, 0xFEFF), (0xFFA0, 0xFFA0), (0x1BCA0, 0x1BCA3), (0x1D173, 0x1D17A), (0xE0100, 0xE01EF)]

/-- Printed characters that have no place in a name: they stand for a blank, for a point behind a
number, or for a sign that divides an address, or they describe how other characters look. -/
def outOfPlace : Array (Nat × Nat) := #[
  (0xA8, 0xA8), (0xAF, 0xAF), (0xB4, 0xB4), (0xB8, 0xB8), (0x2D8, 0x2DD), (0x37A, 0x37A),
  (0x384, 0x385), (0x1FBD, 0x1FBD), (0x1FBF, 0x1FC1), (0x1FCD, 0x1FCF), (0x1FDD, 0x1FDF),
  (0x1FED, 0x1FEE), (0x1FFD, 0x1FFE), (0x2017, 0x2017), (0x2024, 0x2026), (0x203E, 0x203E),
  (0x2047, 0x2049), (0x2100, 0x2101), (0x2105, 0x2106), (0x2488, 0x249B), (0x2A74, 0x2A74),
  (0x2FF0, 0x2FFF), (0x309B, 0x309C), (0x31EF, 0x31EF), (0x33C2, 0x33C2), (0x33C7, 0x33C7),
  (0x33D8, 0x33D8), (0xFC5E, 0xFC63), (0xFDFA, 0xFDFB), (0xFE12, 0xFE13), (0xFE16, 0xFE16),
  (0xFE19, 0xFE19), (0xFE30, 0xFE30), (0xFE47, 0xFE4C), (0xFE52, 0xFE52), (0xFE55, 0xFE56),
  (0xFE5F, 0xFE5F), (0xFE68, 0xFE68), (0xFE6A, 0xFE70), (0xFE72, 0xFE72), (0xFE74, 0xFE76),
  (0xFE78, 0xFE78), (0xFE7A, 0xFE7A), (0xFE7C, 0xFE7C), (0xFE7E, 0xFE7E), (0xFF03, 0xFF03),
  (0xFF05, 0xFF05), (0xFF0F, 0xFF0F), (0xFF1A, 0xFF1A), (0xFF1F, 0xFF20), (0xFF3B, 0xFF3E),
  (0xFF5C, 0xFF5C), (0xFFE3, 0xFFE3), (0xFFFC, 0xFFFD), (0x1F100, 0x1F100)]

/-- What a row of letters says about a code point. -/
def rowLetter? (n : Nat) (row : Nat × Nat × String) : Option Char :=
  let (first, step, letters) := row
  if first ≤ n && (n - first) % step = 0 then letters.toList[(n - first) / step]? else none

/-- What a row of words says about a code point. -/
def rowWord? (n : Nat) (row : Nat × String) : Option (List Char) :=
  let (first, words) := row
  if first ≤ n && n < first + 128 then (words.splitOn " ")[n - first]?.map String.toList else none

/-- What a character stands for in a name, if it has a place there. -/
def fold? (c : Char) : Option (List Char) :=
  let n := c.toNat
  if n < 0x80 then some [c.toLower]
  else if isJoinSign c then some [c]
  else if memRanges leftOut n then some []
  else
    match foldedLetters.findSome? (rowLetter? n) with
    | some x => some [x]
    | none =>
      match foldedWords.findSome? (rowWord? n) with
      | some w => some w
      | none => if memRanges unprinted n || memRanges outOfPlace n then none else some [c]

example : fold? 'Ü' = some ['ü'] := by decide +kernel
example : fold? '\u00AD' = some [] := by decide +kernel

end Conformance.Text
