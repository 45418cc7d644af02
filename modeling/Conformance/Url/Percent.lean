/-!
# Percent signs

What may not stand in a part of an address is written as its bytes, each with a percent sign and two
digits to base sixteen.
-/

namespace Conformance.Url

/-- A digit to base sixteen, in capitals. -/
def percentDigit (n : Nat) : Char := if n < 10 then Char.ofNat (48 + n) else Char.ofNat (55 + n)

/-- A byte with a percent sign. -/
def percentByte (b : UInt8) : List Char :=
  ['%', percentDigit (b.toNat / 16), percentDigit (b.toNat % 16)]

/-- A text in which the characters of a class are written with percent signs. -/
def percentEncode (inClass : Char → Bool) (s : List Char) : List Char :=
  s.flatMap fun c =>
    if inClass c then (String.singleton c).toUTF8.toList.flatMap percentByte else [c]

/-- The value of a digit to base sixteen. -/
def hexValue? (b : UInt8) : Option UInt8 :=
  if 48 ≤ b && b ≤ 57 then some (b - 48)
  else if 65 ≤ b && b ≤ 70 then some (b - 55)
  else if 97 ≤ b && b ≤ 102 then some (b - 87)
  else none

/-- The bytes that a text with percent signs stands for. A percent sign without two digits stands
for itself. -/
def percentDecodeBytes : List UInt8 → List UInt8
  | 37 :: a :: b :: rest =>
    match hexValue? a, hexValue? b with
    | some x, some y => (x * 16 + y) :: percentDecodeBytes rest
    | _, _ => 37 :: percentDecodeBytes (a :: b :: rest)
  | b :: rest => b :: percentDecodeBytes rest
  | [] => []

/-- The text that a text with percent signs stands for, if its bytes are one. -/
def percentDecode? (s : List Char) : Option (List Char) :=
  let bytes := percentDecodeBytes (String.ofList s).toUTF8.toList
  (String.fromUTF8? ⟨bytes.toArray⟩).map String.toList

/-- Controls and everything beyond ASCII. -/
def isControl (c : Char) : Bool := c.toNat < 0x20 || 0x7F ≤ c.toNat

/-- What a fragment may not hold. -/
def notInFragment (c : Char) : Bool := isControl c || " \"<>\x60".toList.contains c

/-- What a query may not hold; the well-known schemes refuse one character more. -/
def notInQuery (wellKnown : Bool) (c : Char) : Bool :=
  isControl c || " \"#<>".toList.contains c || (wellKnown && c = '\'')

/-- What a path may not hold. -/
def notInPath (c : Char) : Bool := notInFragment c || "#?\x7b\x7d".toList.contains c

/-- What the name and the password of a user may not hold. -/
def notInCredentials (c : Char) : Bool := notInPath c || "/:;=@[\\]^|".toList.contains c

end Conformance.Url
