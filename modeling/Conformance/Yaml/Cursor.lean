/-!
# A place in a YAML text

A cursor holds the text still to read and the mark of the place where it begins. Only `skip`,
`skipLine` and `readLine` move it, so the mark always fits the text.
-/

namespace Conformance.Yaml

/-- A place in a text: characters, lines and columns before it. -/
structure Mark where
  index : Nat
  line : Nat
  column : Nat
  deriving Repr, DecidableEq, Inhabited

/-- What makes a text no YAML stream, and where. -/
structure SyntaxError where
  problem : String
  mark : Mark
  deriving Repr

/-- A blank within a line. -/
def isBlank (c : Char) : Bool := c = ' ' || c = '\t'

/-- A line break. -/
def isBreak (c : Char) : Bool :=
  c = '\r' || c = '\n' || c = '\u0085' || c = '\u2028' || c = '\u2029'

/-- A character of a name: a letter or digit of ASCII, a hyphen or an underscore. -/
def isWord (c : Char) : Bool := c.isAlphanum || c = '_' || c = '-'

/-- The text still to read and the mark of its start. -/
structure Cursor where
  rest : List Char
  mark : Mark
  deriving Repr

namespace Cursor

/-- The start of a text. -/
def ofText (s : List Char) : Cursor := ⟨s, ⟨0, 0, 0⟩⟩

/-- Is the `k`-th character the given one? -/
def has (c : Cursor) (x : Char) (k : Nat) : Bool := c.rest[k]? == some x

/-- Is the next character the given one? -/
def at? (c : Cursor) (x : Char) : Bool := c.has x 0

/-- Is the next character one of the given ones? -/
def oneOf (c : Cursor) (xs : String) (k : Nat) : Bool :=
  match c.rest[k]? with
  | some x => xs.toList.contains x
  | none => false

/-- Is there no further character? -/
def atEnd (c : Cursor) : Bool := c.rest.isEmpty

/-- Does the `k`-th character satisfy `p`? -/
def is (c : Cursor) (p : Char → Bool) (k : Nat) : Bool := (c.rest[k]?).any p

/-- Is the `k`-th place a blank, a break or the end? -/
def isGap (c : Cursor) (k : Nat) : Bool :=
  match c.rest[k]? with
  | some x => isBlank x || isBreak x
  | none => true

/-- Is the next place a break or the end? -/
def atLineEnd (c : Cursor) : Bool :=
  match c.rest with
  | x :: _ => isBreak x
  | [] => true

/-- The mark after a character that is no break. -/
def nextMark (m : Mark) : Mark := ⟨m.index + 1, m.line, m.column + 1⟩

/-- Passes over one character. -/
def skip (c : Cursor) : Cursor :=
  match c.rest with
  | _ :: rest => ⟨rest, nextMark c.mark⟩
  | [] => c

/-- Passes over `n` characters. -/
def skipN : Nat → Cursor → Cursor
  | 0, c => c
  | n + 1, c => skipN n c.skip

/-- Reads the characters in front that satisfy `p`. -/
def readWhile (p : Char → Bool) : List Char → Mark → List Char × Cursor
  | [], m => ([], ⟨[], m⟩)
  | x :: rest, m =>
    if p x then
      let (xs, c) := readWhile p rest (nextMark m)
      (x :: xs, c)
    else ([], ⟨x :: rest, m⟩)

/-- Reads the characters in front that satisfy `p`. -/
def takeWhile (c : Cursor) (p : Char → Bool) : List Char × Cursor := readWhile p c.rest c.mark

/-- Passes over the characters in front that satisfy `p`. -/
def skipWhile (c : Cursor) (p : Char → Bool) : Cursor := (c.takeWhile p).2

/-- Reads a line break, two characters if it is a carriage return before a line feed. All breaks but
the two separators of lines and paragraphs read as a line feed. -/
def readLine (c : Cursor) : List Char × Cursor :=
  match c.rest with
  | '\r' :: '\n' :: rest => (['\n'], ⟨rest, ⟨c.mark.index + 2, c.mark.line + 1, 0⟩⟩)
  | x :: rest =>
    if isBreak x then
      ([if x = '\u2028' || x = '\u2029' then x else '\n'],
        ⟨rest, ⟨c.mark.index + 1, c.mark.line + 1, 0⟩⟩)
    else ([], c)
  | [] => ([], c)

/-- Passes over a line break. -/
def skipLine (c : Cursor) : Cursor := c.readLine.2

/-- Passes over blanks and a comment up to the end of the line. -/
def skipToLineEnd (c : Cursor) : Cursor :=
  let c := c.skipWhile isBlank
  if c.at? '#' then c.skipWhile (!isBreak ·) else c

/-- Does a line with the mark of a document's start or end begin here? -/
def atDocumentMark (c : Cursor) : Bool :=
  c.mark.column = 0
    && ((c.has '-' 0 && c.has '-' 1 && c.has '-' 2) || (c.has '.' 0 && c.has '.' 1 && c.has '.' 2))
    && c.isGap 3

/-- The error that something is wrong here. -/
def error {α : Type} (c : Cursor) (problem : String) : Except SyntaxError α :=
  .error ⟨problem, c.mark⟩

end Cursor

end Conformance.Yaml
