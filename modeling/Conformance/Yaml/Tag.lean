import Conformance.Yaml.Scalar

/-!
# YAML tags, anchors and directives

The lexemes that stand in front of a node or a document. A tag is a handle and a suffix; the
directives in force give each handle the text that the suffix is put behind.
-/

namespace Conformance.Yaml

/-- A tag as it is written. -/
structure WrittenTag where
  handle : String
  suffix : String
  deriving Repr, DecidableEq, Inhabited

/-- The byte that an escaped octet of a tag stands for. -/
def readOctet (c : Cursor) : Except SyntaxError (UInt8 × Cursor) :=
  match c.rest with
  | '%' :: a :: b :: _ =>
    match hexValue? a, hexValue? b with
    | some x, some y => .ok ((x * 16 + y).toUInt8, c.skipN 3)
    | _, _ => c.error "did not find URI escaped octet"
  | _ => c.error "did not find URI escaped octet"

/-- How many octets follow the first octet of a character. -/
def octetsAfter (b : UInt8) : Option Nat :=
  if b < 0x80 then some 0
  else if b / 32 = 6 then some 1
  else if b / 16 = 14 then some 2
  else if b / 8 = 30 then some 3
  else none

/-- Reads `n` octets that go on with a character. -/
def readOctets : Nat → Cursor → Except SyntaxError (List UInt8 × Cursor)
  | 0, c => .ok ([], c)
  | n + 1, c => do
    let (b, d) ← readOctet c
    if b / 64 ≠ 2 then c.error "found an incorrect trailing UTF-8 octet"
    let (bs, d) ← readOctets n d
    return (b :: bs, d)

/-- Reads a character that is written in escaped octets. -/
def readEscapedChar (c : Cursor) : Except SyntaxError (List Char × Cursor) := do
  let (b, d) ← readOctet c
  match octetsAfter b with
  | none => c.error "found an incorrect leading UTF-8 octet"
  | some n =>
    let (bs, d) ← readOctets n d
    match String.fromUTF8? ⟨(b :: bs).toArray⟩ with
    | some s => return (s.toList, d)
    | none => c.error "found an incorrect leading UTF-8 octet"

/-- May the character stand in a tag? A verbatim tag takes three more. -/
def isTagChar (verbatim : Bool) (x : Char) : Bool :=
  isWord x || ";/?:@&=+$.%!~*'()".toList.contains x || (verbatim && ",[]".toList.contains x)

/-- Reads the characters of a tag. -/
def readTagChars (verbatim : Bool) :
    Nat → List Char → Cursor → Except SyntaxError (List Char × Cursor)
  | 0, text, c => .ok (text, c)
  | fuel + 1, text, c =>
    match c.rest with
    | [] => .ok (text, c)
    | x :: _ =>
      if !isTagChar verbatim x then .ok (text, c)
      else if x = '%' then do
        let (ys, c) ← readEscapedChar c
        readTagChars verbatim fuel (text ++ ys) c
      else readTagChars verbatim fuel (text ++ [x]) c.skip

/-- Reads a tag's text behind what is known of it, which has at least one character. -/
def readTagText (verbatim : Bool) (head : List Char) (c : Cursor) :
    Except SyntaxError (List Char × Cursor) := do
  let (text, d) ← readTagChars verbatim (c.rest.length + 1) (head.drop 1) c
  if head.isEmpty && text.isEmpty then d.error "did not find expected tag URI"
  return (text, d)

/-- Reads a handle: a word between exclamation marks, of which the second may lack. -/
def readHandle (c : Cursor) : Except SyntaxError (List Char × Cursor) :=
  if !c.at? '!' then c.error "did not find expected '!'"
  else
    let (name, c) := c.skip.takeWhile isWord
    if c.at? '!' then .ok ('!' :: name ++ ['!'], c.skip) else .ok ('!' :: name, c)

/-- Is the handle more than one mark, with a mark at its end? -/
def isNamedHandle (h : List Char) : Bool := 1 < h.length && h.getLast? = some '!'

/-- Reads a tag. -/
def readTag (flow : Bool) (c : Cursor) : Except SyntaxError (WrittenTag × Cursor) := do
  let (tag, d) ←
    if c.has '<' 1 then do
      let (suffix, d) ← readTagText true [] (c.skipN 2)
      if !d.at? '>' then d.error "did not find the expected '>'"
      pure ((⟨"", String.ofList suffix⟩ : WrittenTag), d.skip)
    else do
      let (handle, d) ← readHandle c
      if isNamedHandle handle then
        let (suffix, d) ← readTagText false [] d
        pure (⟨String.ofList handle, String.ofList suffix⟩, d)
      else
        let (suffix, d) ← readTagText false handle d
        if suffix.isEmpty then pure (⟨"", "!"⟩, d) else pure (⟨"!", String.ofList suffix⟩, d)
  if !d.isGap 0 && !(flow && d.at? ',') then
    d.error "did not find expected whitespace or line break"
  return (tag, d)

/-- Reads the name of an anchor or an alias from its mark on. -/
def readAnchor (c : Cursor) : Except SyntaxError (String × Cursor) :=
  let (name, d) := c.skip.takeWhile isWord
  if name.isEmpty || !(d.isGap 0 || d.oneOf "?:,]\x7d%@`" 0) then
    d.error "did not find expected alphabetic or numeric character"
  else .ok (String.ofList name, d)

/-- A directive. -/
inductive Directive where
  | version (major minor : Nat)
  | tag (handle prefixText : String)
  deriving Repr, DecidableEq, Inhabited

/-- Reads a number of a version. -/
def readVersionNumber (c : Cursor) : Except SyntaxError (Nat × Cursor) :=
  let (ds, d) := c.takeWhile Char.isDigit
  if 9 < ds.length then d.error "found extremely long version number"
  else if ds.isEmpty then d.error "did not find expected version number"
  else .ok (ds.foldl (fun n x => n * 10 + (x.toNat - 48)) 0, d)

/-- Reads the value of a directive with the given name. -/
def readDirectiveValue (name : String) (c : Cursor) : Except SyntaxError (Directive × Cursor) := do
  if name = "YAML" then
    let (major, d) ← readVersionNumber (c.skipWhile isBlank)
    if !d.at? '.' then d.error "did not find expected digit or '.' character"
    let (minor, d) ← readVersionNumber d.skip
    return (.version major minor, d)
  else if name = "TAG" then
    let (handle, d) ← readHandle (c.skipWhile isBlank)
    if !isNamedHandle handle && handle ≠ ['!'] then d.error "did not find expected '!'"
    if !d.is isBlank 0 then d.error "did not find expected whitespace"
    let (text, d) ← readTagText true [] (d.skipWhile isBlank)
    if !d.isGap 0 then d.error "did not find expected whitespace or line break"
    return (.tag (String.ofList handle) (String.ofList text), d)
  else c.error "found unknown directive name"

/-- Reads a directive and the rest of its line. The middle part is the mark of the directive's end.
-/
def readDirective (c : Cursor) : Except SyntaxError (Directive × Mark × Cursor) := do
  let (name, d) := c.skip.takeWhile isWord
  if name.isEmpty then d.error "could not find expected directive name"
  if !d.isGap 0 then d.error "found unexpected non-alphabetical character"
  let (v, d) ← readDirectiveValue (String.ofList name) d
  let e := d.skipToLineEnd
  if !e.atLineEnd then e.error "did not find expected comment or line break"
  return (v, d.mark, e.skipLine)

/-- What the handles stand for: the handles that directives name, before the two that always stand
for something. -/
def expandTag? (directives : List (String × String)) (t : WrittenTag) : Option String :=
  if t.handle = "" then some t.suffix
  else
    ((directives ++ [("!", "!"), ("!!", "tag:yaml.org,2002:")]).find? (·.1 == t.handle)).map
      fun d => d.2 ++ t.suffix

end Conformance.Yaml
