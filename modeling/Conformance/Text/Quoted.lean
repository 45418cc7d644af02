import Conformance.Text.CodePoints

/-!
# Quoted text

A text between double quotes, in which every character without a printed form of its own is written
as an escape: the short escapes for the common controls, a code point in braces for all others.
-/

namespace Conformance.Text

/-- The digit of `n` below sixteen, in lower case. -/
def hexDigit (n : Nat) : Char :=
  if n < 10 then Char.ofNat (48 + n) else Char.ofNat (87 + n)

/-- The digits of a code point to base sixteen, without leading zeros. -/
def hexDigits (n : Nat) : List Char := Nat.toDigits 16 n

/-- Is the character written as itself? A mark that would join the character in front of it is not,
but for the two halfwidth sound marks, which stand in a place of their own. -/
def isShown (c : Char) : Bool :=
  isPrinted c.toNat && (!isExtending c.toNat || c = '\uFF9E' || c = '\uFF9F')

/-- How one character is written between double quotes. -/
def quotedChar (c : Char) : List Char :=
  if c = '\x00' then ['\\', '0']
  else if c = '\t' then ['\\', 't']
  else if c = '\n' then ['\\', 'n']
  else if c = '\r' then ['\\', 'r']
  else if c = '"' then ['\\', '"']
  else if c = '\\' then ['\\', '\\']
  else if isShown c then [c]
  else ['\\', 'u', '\x7b'] ++ hexDigits c.toNat ++ ['\x7d']

/-- The text between double quotes. -/
def quoted (s : String) : String :=
  String.ofList ('"' :: s.toList.flatMap quotedChar ++ ['"'])

/-- A list of quoted texts between square brackets. -/
def quotedList (l : List String) : String :=
  "[" ++ ", ".intercalate (l.map quoted) ++ "]"

end Conformance.Text
