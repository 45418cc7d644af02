/-!
# Blank characters

The characters with the Unicode property White_Space, and the removal of such characters from both
ends of a text.
-/

namespace Conformance.Text

/-- Has the property White_Space. -/
def isBlank (c : Char) : Bool :=
  let n := c.toNat
  (0x09 ≤ n && n ≤ 0x0D) || n == 0x20 || n == 0x85 || n == 0xA0 || n == 0x1680
    || (0x2000 ≤ n && n ≤ 0x200A) || n == 0x2028 || n == 0x2029 || n == 0x202F
    || n == 0x205F || n == 0x3000

/-- The text without the blank characters at its two ends. -/
def trim (s : String) : String :=
  String.ofList ((s.toList.dropWhile isBlank).reverse.dropWhile isBlank).reverse

/-- Holds no character that is not blank. -/
def allBlank (s : String) : Bool := s.toList.all isBlank

example : trim "\u00A0 a b\t\u3000" = "a b" := by decide
example : allBlank "" = true := by decide

end Conformance.Text
