import Conformance.Json

/-!
# The texts of a document

`Writes` is the grammar of documents without doubles: a tree has many texts, since blanks may stand
between all tokens and a string has a choice of escapes, but a text keeps the order of the members.
-/

namespace Conformance.Json

section Strings

/-- The character is a digit to base sixteen, in either case. -/
def HexDigit (d : Nat) (c : Char) : Prop :=
  d < 16 ∧ (c = d.digitChar ∨ c = d.digitChar.toUpper)

/-- Four digits write a code unit. -/
inductive UnitText : Nat → List Char → Prop
  | digits {w x y z : Nat} {a b c d : Char} (ha : HexDigit w a) (hb : HexDigit x b)
      (hc : HexDigit y c) (hd : HexDigit z d) :
      UnitText (((w * 16 + x) * 16 + y) * 16 + z) [a, b, c, d]

/-- The letters behind a backslash that stand for one character, with it. -/
def shortEscapes : List (Char × Char) :=
  [('"', '"'), ('\\', '\\'), ('/', '/'), ('b', '\x08'), ('f', '\x0c'), ('n', '\n'), ('r', '\r'),
    ('t', '\t')]

/-- A text writes a character of a string. -/
inductive CharText (c : Char) : List Char → Prop
  /-- The character stands for itself. -/
  | plain (hquote : c ≠ '"') (hslash : c ≠ '\\') (hcontrol : 0x20 ≤ c.toNat) : CharText c [c]
  /-- A letter stands for it. -/
  | short {e : Char} (h : (e, c) ∈ shortEscapes) : CharText c ['\\', e]
  /-- Its code unit stands for it. -/
  | unit {s : List Char} (h : UnitText c.toNat s) : CharText c ('\\' :: 'u' :: s)
  /-- The two halves of its pair of code units stand for it. -/
  | pair {s t : List Char} (hwide : 0x10000 ≤ c.toNat)
      (hs : UnitText (0xD800 + (c.toNat - 0x10000) / 0x400) s)
      (ht : UnitText (0xDC00 + (c.toNat - 0x10000) % 0x400) t) :
      CharText c ('\\' :: 'u' :: (s ++ '\\' :: 'u' :: t))

/-- A text writes the characters of a string, one after the other. -/
inductive CharsText : List Char → List Char → Prop
  | nil : CharsText [] []
  | cons {c : Char} {cs s t : List Char} (hc : CharText c s) (hcs : CharsText cs t) :
      CharsText (c :: cs) (s ++ t)

/-- A text writes a string. -/
inductive StringText (text : String) : List Char → Prop
  | quoted {s : List Char} (h : CharsText text.toList s) : StringText text ('"' :: (s ++ ['"']))

end Strings

section Values

/-- Nothing but blanks, tabs and line breaks. -/
def Blank (s : List Char) : Prop := ∀ c ∈ s, c ∈ [' ', '\t', '\n', '\r']

mutual

/-- The text writes the value, from its first token to its last. -/
inductive Writes : Json → List Char → Prop
  | null : Writes .null "null".toList
  | bool (b : Bool) : Writes (.bool b) (toString b).toList
  | int {n : Int} (hlow : -9223372036854775808 ≤ n) (hhigh : n ≤ 18446744073709551615) :
      Writes (.int n) (toString n).toList
  | string {text : String} {s : List Char} (h : StringText text s) : Writes (.string text) s
  | emptyArray {a : List Char} (ha : Blank a) : Writes (.array []) ('[' :: (a ++ [']']))
  | array {items : List Json} {s : List Char} (h : ItemsText items s) :
      Writes (.array items) ('[' :: (s ++ [']']))
  | emptyObject {a : List Char} (ha : Blank a) : Writes (.object []) ('\x7b' :: (a ++ ['\x7d']))
  | object {members : List (String × Json)} {s : List Char} (h : MembersText members s) :
      Writes (.object members) ('\x7b' :: (s ++ ['\x7d']))

/-- The text writes the value with blanks around it. -/
inductive Padded : Json → List Char → Prop
  | blanks {v : Json} {a s b : List Char} (ha : Blank a) (h : Writes v s) (hb : Blank b) :
      Padded v (a ++ (s ++ b))

/-- The text writes the items, at least one, with commas. -/
inductive ItemsText : List Json → List Char → Prop
  | one {v : Json} {s : List Char} (h : Padded v s) : ItemsText [v] s
  | cons {v : Json} {rest : List Json} {s t : List Char} (h : Padded v s)
      (hrest : ItemsText rest t) : ItemsText (v :: rest) (s ++ ',' :: t)

/-- The text writes a key and its value. -/
inductive MemberText : String × Json → List Char → Prop
  | colon {k : String} {v : Json} {a s b t : List Char} (ha : Blank a) (hk : StringText k s)
      (hb : Blank b) (hv : Padded v t) : MemberText (k, v) (a ++ (s ++ (b ++ ':' :: t)))

/-- The text writes the members, at least one, with commas. -/
inductive MembersText : List (String × Json) → List Char → Prop
  | one {m : String × Json} {s : List Char} (h : MemberText m s) : MembersText [m] s
  | cons {m : String × Json} {rest : List (String × Json)} {s t : List Char} (h : MemberText m s)
      (hrest : MembersText rest t) : MembersText (m :: rest) (s ++ ',' :: t)

end

theorem blank_nil : Blank [] := by simp [Blank]

theorem Writes.bare {v : Json} {s : List Char} (h : Writes v s) : Padded v s := by
  have hp := Padded.blanks blank_nil h blank_nil
  rwa [List.nil_append, List.append_nil] at hp

mutual

/-- How deep arrays and objects nest. -/
def depth : Json → Nat
  | .array items => depthItems items + 1
  | .object members => depthMembers members + 1
  | .null | .bool _ | .int _ | .double _ | .string _ => 0

/-- The greatest depth of an item. -/
def depthItems : List Json → Nat
  | [] => 0
  | v :: rest => max (depth v) (depthItems rest)

/-- The greatest depth of a member. -/
def depthMembers : List (String × Json) → Nat
  | [] => 0
  | (_, v) :: rest => max (depth v) (depthMembers rest)

end

end Values

end Conformance.Json
