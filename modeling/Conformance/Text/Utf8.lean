/-!
# Bytes as text

Two ways to read bytes as text: `decode?` accepts only a well-formed encoding, `decodeLossy` puts
the replacement character where the encoding breaks, one for each longest start of a character.
-/

namespace Conformance.Text

/-- The text that `bytes` encodes, if they are well formed. -/
def decode? (bytes : ByteArray) : Option String := String.fromUTF8? bytes

/-- The character that stands for bytes that encode none. -/
def replacement : Char := '\uFFFD'

/-- May the byte follow the first byte of a character? -/
def isTail (b : UInt8) : Bool := 0x80 ≤ b && b ≤ 0xBF

/-- How many bytes a character has that begins with `a`; none if no character does. -/
def lengthFrom (a : UInt8) : Option Nat :=
  if a < 0x80 then some 1
  else if 0xC2 ≤ a && a ≤ 0xDF then some 2
  else if 0xE0 ≤ a && a ≤ 0xEF then some 3
  else if 0xF0 ≤ a && a ≤ 0xF4 then some 4
  else none

/-- May `b` be the second byte of a character that begins with `a`? -/
def isSecond (a b : UInt8) : Bool :=
  if a = 0xE0 then 0xA0 ≤ b && b ≤ 0xBF
  else if a = 0xED then 0x80 ≤ b && b ≤ 0x9F
  else if a = 0xF0 then 0x90 ≤ b && b ≤ 0xBF
  else if a = 0xF4 then 0x80 ≤ b && b ≤ 0x8F
  else isTail b

/-- The low six bits of a byte. -/
def lowBits (b : UInt8) : Nat := b.toNat % 64

/-- Reads the bytes, with a replacement for each longest start that breaks off. -/
def decodeLossyList : List UInt8 → List Char
  | [] => []
  | a :: rest =>
    match lengthFrom a with
    | none => replacement :: decodeLossyList rest
    | some 1 => Char.ofNat a.toNat :: decodeLossyList rest
    | some n =>
      match rest with
      | [] => [replacement]
      | b :: rest =>
        if !isSecond a b then replacement :: decodeLossyList (b :: rest)
        else if n = 2 then Char.ofNat (a.toNat % 32 * 64 + lowBits b) :: decodeLossyList rest
        else
          match rest with
          | [] => [replacement]
          | c :: rest =>
            if !isTail c then replacement :: decodeLossyList (c :: rest)
            else if n = 3 then
              Char.ofNat ((a.toNat % 16 * 64 + lowBits b) * 64 + lowBits c)
                :: decodeLossyList rest
            else
              match rest with
              | [] => [replacement]
              | d :: rest =>
                if !isTail d then replacement :: decodeLossyList (d :: rest)
                else
                  Char.ofNat (((a.toNat % 8 * 64 + lowBits b) * 64 + lowBits c) * 64 + lowBits d)
                    :: decodeLossyList rest

/-- The text that `bytes` encode, with replacements where they are not well formed. -/
def decodeLossy (bytes : ByteArray) : String := String.ofList (decodeLossyList bytes.toList)

example : decodeLossyList [0xE2, 0x82] = [replacement] := by decide
example : decodeLossyList [0xF0, 0x9F, 0x98, 0x78] = [replacement, 'x'] := by decide
example : decodeLossyList [0xED, 0xA0, 0x80] = [replacement, replacement, replacement] := by decide
example : decodeLossyList [0xF0, 0x9F, 0x98, 0x80] = ['😀'] := by decide

end Conformance.Text
