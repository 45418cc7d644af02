import Conformance.Text.Utf8

/-!
# Bytes as characters

Scripts and what they write are bytes, not text. They are handled as lists of characters below 256,
one for each byte, so that a script's own characters can be named as such.
-/

namespace Conformance.Shell

/-- Bytes, each as the character with its number. -/
abbrev Octets := List Char

namespace Octets

/-- The octets of bytes. -/
def ofBytes (b : ByteArray) : Octets := b.toList.map fun x => Char.ofNat x.toNat

/-- The bytes of octets. -/
def toBytes (s : Octets) : ByteArray := ⟨(s.map fun c => UInt8.ofNat c.toNat).toArray⟩

/-- The octets that encode a text. -/
def ofText (s : String) : Octets := ofBytes s.toUTF8

/-- The text that octets encode, with replacements where they encode none. -/
def toText (s : Octets) : String := Text.decodeLossy (toBytes s)

/-- The octets of a number. -/
def ofInt (n : Int) : Octets := (toString n).toList

end Octets

end Conformance.Shell
