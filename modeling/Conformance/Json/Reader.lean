import Conformance.Json.Number
import Conformance.Json.Text

/-!
# Reading JSON

`Json.read` reads a whole text as one JSON document. A document may nest arrays and objects to a
depth of 127. Each reader takes the text still to read and gives back what it leaves; the loops over
items and members are bounded by the length of the text, of which every turn takes a part.
-/

namespace Conformance.Json

/-- A reader of values: it answers the value and the text after it. -/
abbrev Reader := List Char → Except Fault (Json × List Char)

/-- Blank between tokens. -/
def isSpace (c : Char) : Bool := c = ' ' || c = '\n' || c = '\t' || c = '\r'

/-- Passes over blanks. -/
def skipSpace (s : List Char) : List Char := s.dropWhile isSpace

/-- The fault of a text whose next character is not what it has to be. -/
def unexpected (cause : Cause) (s : List Char) : Fault := ⟨cause, s, min 1 s.length⟩

/-- Reads the rest of a word. -/
def readWord (value : Json) : List Char → List Char → Except Fault (Json × List Char)
  | [], s => .ok (value, s)
  | _ :: _, [] => .error ⟨.endInValue, [], 0⟩
  | c :: cs, d :: s =>
    if c = d then readWord value cs s else .error ⟨.expectedIdentifier, d :: s, 1⟩

/-- Reads the items of an array after its first. -/
def moreItems (item : Reader) : Nat → List Char → Except Fault (List Json × List Char)
  | 0, s => .error (unexpected .endInArray s)
  | fuel + 1, s =>
    match skipSpace s with
    | [] => .error ⟨.endInArray, [], 0⟩
    | ']' :: s => .ok ([], s)
    | ',' :: s =>
      match skipSpace s with
      | [] => .error ⟨.endInValue, [], 0⟩
      | ']' :: s => .error ⟨.trailingComma, ']' :: s, 1⟩
      | s => do
        let (v, s) ← item s
        let (vs, s) ← moreItems item fuel s
        .ok (v :: vs, s)
    | s => .error ⟨.expectedCommaOrBracket, s, 1⟩

/-- Reads the items of an array from behind its bracket. -/
def readItems (item : Reader) (s : List Char) : Except Fault (List Json × List Char) :=
  match skipSpace s with
  | [] => .error ⟨.endInArray, [], 0⟩
  | ']' :: s => .ok ([], s)
  | s => do
    let (v, s) ← item s
    let (vs, s) ← moreItems item (s.length + 1) s
    .ok (v :: vs, s)

/-- Reads a member from behind the quote of its key. -/
def readMember (item : Reader) (s : List Char) : Except Fault ((String × Json) × List Char) := do
  let (k, s) ← readString s
  match skipSpace s with
  | [] => .error ⟨.endInObject, [], 0⟩
  | ':' :: s =>
    let (v, s) ← item s
    .ok ((k, v), s)
  | s => .error ⟨.expectedColon, s, 1⟩

/-- Reads the members of an object after its first. -/
def moreMembers (item : Reader) : Nat → List Char → Except Fault (List (String × Json) × List Char)
  | 0, s => .error (unexpected .endInObject s)
  | fuel + 1, s =>
    match skipSpace s with
    | [] => .error ⟨.endInObject, [], 0⟩
    | '\x7d' :: s => .ok ([], s)
    | ',' :: s =>
      match skipSpace s with
      | [] => .error ⟨.endInValue, [], 0⟩
      | '"' :: s => do
        let (m, s) ← readMember item s
        let (ms, s) ← moreMembers item fuel s
        .ok (m :: ms, s)
      | '\x7d' :: s => .error ⟨.trailingComma, '\x7d' :: s, 1⟩
      | s => .error ⟨.expectedKey, s, 1⟩
    | s => .error ⟨.expectedCommaOrBrace, s, 1⟩

/-- Reads the members of an object from behind its brace. -/
def readMembers (item : Reader) (s : List Char) : Except Fault (List (String × Json) × List Char) :=
  match skipSpace s with
  | [] => .error ⟨.endInObject, [], 0⟩
  | '\x7d' :: s => .ok ([], s)
  | '"' :: s => do
    let (m, s) ← readMember item s
    let (ms, s) ← moreMembers item (s.length + 1) s
    .ok (m :: ms, s)
  | s => .error ⟨.expectedKey, s, 1⟩

/-- Reads a value in which arrays and objects nest fewer than `depth` deep. -/
def readValue : Nat → Reader
  | depth, s =>
    match skipSpace s with
    | [] => .error ⟨.endInValue, [], 0⟩
    | 'n' :: s => readWord .null "ull".toList s
    | 't' :: s => readWord (.bool true) "rue".toList s
    | 'f' :: s => readWord (.bool false) "alse".toList s
    | '"' :: s => (readString s).map fun (t, s) => (.string t, s)
    | '-' :: s => readNumber true s
    | '[' :: s =>
      match depth with
      | 0 | 1 => .error ⟨.tooDeep, '[' :: s, 1⟩
      | depth + 2 => (readItems (readValue (depth + 1)) s).map fun (vs, s) => (.array vs, s)
    | '\x7b' :: s =>
      match depth with
      | 0 | 1 => .error ⟨.tooDeep, '\x7b' :: s, 1⟩
      | depth + 2 => (readMembers (readValue (depth + 1)) s).map fun (ms, s) => (.object ms, s)
    | c :: s =>
      if (digit? c).isSome then readNumber false (c :: s) else .error ⟨.expectedValue, c :: s, 1⟩

/-- Arrays and objects nest fewer than this deep. -/
def depthBound : Nat := 128

/-- Reads a whole text as one document. -/
def readChars (s : List Char) : Except Fault Json := do
  let (v, s) ← readValue depthBound s
  match skipSpace s with
  | [] => .ok v
  | s => .error ⟨.trailingCharacters, s, 1⟩

/-- The document that a text writes. -/
def read (text : String) : Except Fault Json := readChars text.toList

end Conformance.Json
