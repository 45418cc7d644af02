import Conformance.Yaml.Cursor

/-!
# YAML scalars

The three ways to write a scalar: quoted, plain and as a block. A line break within a quoted or
plain scalar folds to a space, several fold to all but the first; `Breaks` holds what was read
between two pieces of text until it is known how to fold it.
-/

namespace Conformance.Yaml

/-- How a scalar was written. -/
inductive Style where
  | plain
  | singleQuoted
  | doubleQuoted
  | literal
  | folded
  deriving Repr, DecidableEq, Inhabited

/-- Blanks and breaks between two pieces of a scalar. -/
structure Breaks where
  /-- Blanks before the first break. -/
  blanks : List Char := []
  /-- The first break. -/
  first : List Char := []
  /-- The breaks after it. -/
  later : List Char := []
  /-- Was a break passed? -/
  passed : Bool := false

/-- What the blanks and breaks come to in the scalar. -/
def Breaks.fold (b : Breaks) : List Char :=
  if !b.passed then b.blanks
  else if b.first = ['\n'] then
    if b.later.isEmpty then [' '] else b.later
  else b.first ++ b.later

/-- Reads blanks and breaks; within a plain scalar that is indented to `indent`, a tab in the
indentation is an error. -/
def Breaks.read (indent : Option Nat) : Nat → Breaks → Cursor → Except SyntaxError (Breaks × Cursor)
  | 0, b, c => .ok (b, c)
  | fuel + 1, b, c =>
    match c.rest with
    | [] => .ok (b, c)
    | x :: _ =>
      if isBlank x then
        if b.passed && x = '\t' && indent.any (c.mark.column < ·) then
          c.error "found a tab character that violates indentation"
        else if b.passed then Breaks.read indent fuel b c.skip
        else Breaks.read indent fuel { b with blanks := b.blanks ++ [x] } c.skip
      else if isBreak x then
        let (nl, c) := c.readLine
        if b.passed then Breaks.read indent fuel { b with later := b.later ++ nl } c
        else Breaks.read indent fuel { b with blanks := [], first := nl, passed := true } c
      else .ok (b, c)

/-- The value of a digit to base sixteen. -/
def hexValue? (x : Char) : Option Nat :=
  if x.isDigit then some (x.toNat - 48)
  else if 'a' ≤ x ∧ x ≤ 'f' then some (x.toNat - 87)
  else if 'A' ≤ x ∧ x ≤ 'F' then some (x.toNat - 55)
  else none

/-- The value of the first `n` digits to base sixteen. -/
def hexNumber? : Nat → Nat → List Char → Option Nat
  | 0, value, _ => some value
  | _ + 1, _, [] => none
  | n + 1, value, x :: rest => (hexValue? x).bind fun d => hexNumber? n (value * 16 + d) rest

/-- What a backslash and a letter stand for: a character, or a code point of so many digits. -/
def escape? (x : Char) : Option (Char ⊕ Nat) :=
  match x with
  | '0' => some (.inl '\x00')
  | 'a' => some (.inl '\x07')
  | 'b' => some (.inl '\x08')
  | 't' | '\t' => some (.inl '\t')
  | 'n' => some (.inl '\n')
  | 'v' => some (.inl '\x0b')
  | 'f' => some (.inl '\x0c')
  | 'r' => some (.inl '\r')
  | 'e' => some (.inl '\x1b')
  | ' ' => some (.inl ' ')
  | '"' => some (.inl '"')
  | '/' => some (.inl '/')
  | '\\' => some (.inl '\\')
  | 'N' => some (.inl '\u0085')
  | '_' => some (.inl '\u00a0')
  | 'L' => some (.inl '\u2028')
  | 'P' => some (.inl '\u2029')
  | 'x' => some (.inr 2)
  | 'u' => some (.inr 4)
  | 'U' => some (.inr 8)
  | _ => none

/-- Reads an escape from its backslash on. -/
def readEscape (c : Cursor) : Except SyntaxError (Char × Cursor) :=
  match (c.rest[1]?).bind escape? with
  | none => c.error "found unknown escape character"
  | some (.inl x) => .ok (x, c.skipN 2)
  | some (.inr n) =>
    let d := c.skipN 2
    match hexNumber? n 0 d.rest with
    | none => d.error "did not find expected hexdecimal number"
    | some value =>
      if (0xD800 ≤ value && value ≤ 0xDFFF) || 0x10FFFF < value then
        d.error "found invalid Unicode character escape code"
      else .ok (Char.ofNat value, d.skipN n)

/-- Reads a piece of a quoted scalar that holds no blank; the text is reversed. The last part tells
whether an escaped break ended the piece. -/
def readQuotedPiece (single : Bool) :
    Nat → List Char → Cursor → Except SyntaxError (List Char × Cursor × Bool)
  | 0, text, c => .ok (text, c, false)
  | fuel + 1, text, c =>
    match c.rest with
    | [] => .ok (text, c, false)
    | x :: _ =>
      if c.isGap 0 then .ok (text, c, false)
      else if single && x = '\'' && c.has '\'' 1 then
        readQuotedPiece single fuel ('\'' :: text) (c.skipN 2)
      else if x = (if single then '\'' else '"') then .ok (text, c, false)
      else if !single && x = '\\' && c.is isBreak 1 then .ok (text, c.skip.skipLine, true)
      else if !single && x = '\\' then do
        let (y, c) ← readEscape c
        readQuotedPiece single fuel (y :: text) c
      else readQuotedPiece single fuel (x :: text) c.skip

/-- Reads a quoted scalar from behind its first quote; the text is reversed. -/
def readQuotedFrom (single : Bool) :
    Nat → List Char → Cursor → Except SyntaxError (List Char × Cursor)
  | 0, _, c => c.error "found unexpected end of stream"
  | fuel + 1, text, c => do
    if c.atDocumentMark then c.error "found unexpected document indicator"
    if c.atEnd then c.error "found unexpected end of stream"
    let (text, c, escaped) ← readQuotedPiece single (c.rest.length + 1) text c
    if c.at? (if single then '\'' else '"') then return (text, c.skip)
    let (b, c) ← Breaks.read none (c.rest.length + 1) { passed := escaped } c
    readQuotedFrom single fuel (b.fold.reverse ++ text) c

/-- Reads a quoted scalar from its first quote on. -/
def readQuoted (single : Bool) (c : Cursor) : Except SyntaxError (String × Cursor) := do
  let (text, c) ← readQuotedFrom single (c.rest.length + 1) [] c.skip
  return (String.ofList text.reverse, c)

/-- Does a plain scalar end at this character? -/
def endsPlain (flow : Bool) (c : Cursor) : Bool :=
  (c.at? ':' && c.isGap 1) || (flow && c.oneOf ",[]\x7b\x7d" 0)

/-- Reads a piece of a plain scalar that holds no blank; the text is reversed. -/
def readPlainPiece (flow : Bool) :
    Nat → List Char → Cursor → Except SyntaxError (List Char × Cursor)
  | 0, text, c => .ok (text, c)
  | fuel + 1, text, c =>
    match c.rest with
    | [] => .ok (text, c)
    | x :: _ =>
      if c.isGap 0 then .ok (text, c)
      else if flow && x = ':' && c.oneOf ",?[]\x7b\x7d" 1 then c.error "found unexpected ':'"
      else if endsPlain flow c then .ok (text, c)
      else readPlainPiece flow fuel (x :: text) c.skip

/-- A plain scalar: its text, its end, the place after the blanks behind it, and whether those hold
a break. -/
structure PlainScalar where
  text : List Char
  finish : Mark
  cursor : Cursor
  broken : Bool

/-- Reads a plain scalar that is indented to `indent`; `before` are the blanks and breaks in front
of the place. -/
def readPlainFrom (flow : Bool) (indent : Nat) :
    Nat → Breaks → PlainScalar → Except SyntaxError PlainScalar
  | 0, _, p => .ok p
  | fuel + 1, before, p => do
    let c := p.cursor
    if c.atDocumentMark || c.at? '#' then return p
    let (piece, d) ← readPlainPiece flow (c.rest.length + 1) [] c
    let p : PlainScalar :=
      if piece.isEmpty then { p with cursor := d }
      else ⟨piece ++ before.fold.reverse ++ p.text, d.mark, d, false⟩
    let before := if piece.isEmpty then before else {}
    if !(d.is isBlank 0 || d.is isBreak 0) then return p
    let (b, e) ← Breaks.read (some indent) (d.rest.length + 1) before d
    let p := { p with cursor := e, broken := b.passed }
    if !flow && e.mark.column < indent then return p
    readPlainFrom flow indent fuel b p

/-- Reads a plain scalar. -/
def readPlain (flow : Bool) (indent : Nat) (c : Cursor) : Except SyntaxError PlainScalar :=
  readPlainFrom flow indent (c.rest.length + 1) {} ⟨[], c.mark, c, false⟩

/-- Passes over the indentation of lines in a block scalar. Without an `indent` the lines that are
empty show the deepest indentation, which is the last part of the result. -/
def skipIndentation (indent : Option Nat) :
    Nat → List Char → Nat → Mark → Cursor → Except SyntaxError (List Char × Cursor × Mark × Nat)
  | 0, breaks, deepest, finish, c => .ok (breaks, c, finish, deepest)
  | fuel + 1, breaks, deepest, finish, c =>
    let within (c : Cursor) : Bool := indent.all (c.mark.column < ·)
    if within c && c.at? ' ' then skipIndentation indent fuel breaks deepest finish c.skip
    else
      let deepest := max deepest c.mark.column
      if within c && c.at? '\t' then
        c.error "found a tab character where an indentation space is expected"
      else if c.is isBreak 0 then
        let (nl, c) := c.readLine
        skipIndentation indent fuel (breaks ++ nl) deepest c.mark c
      else .ok (breaks, c, finish, deepest)

/-- A block scalar in the making; the text is reversed. -/
structure Block where
  text : List Char
  /-- The break at the end of the last line. -/
  first : List Char
  /-- The breaks after it. -/
  later : List Char
  /-- Did the last line begin with a blank? -/
  blank : Bool
  finish : Mark
  cursor : Cursor

/-- Reads the lines of a block scalar that is indented to `indent`. -/
def readBlockLines (literal : Bool) (indent : Nat) : Nat → Block → Except SyntaxError Block
  | 0, b => .ok b
  | fuel + 1, b => do
    let c := b.cursor
    if c.mark.column ≠ indent || c.atEnd then return b
    let blank := c.is isBlank 0
    let joint :=
      if !literal && b.first = ['\n'] && !b.blank && !blank then
        (if b.later.isEmpty then [' '] else []) ++ b.later
      else b.first ++ b.later
    let (line, c) := c.takeWhile (!isBreak ·)
    let (nl, c) := c.readLine
    let (breaks, c, finish, _) ←
      skipIndentation (some indent) (c.rest.length + 1) [] 0 c.mark c
    readBlockLines literal indent fuel
      ⟨line.reverse ++ joint.reverse ++ b.text, nl, breaks, blank, finish, c⟩

/-- What is kept of the breaks behind a block scalar. -/
inductive Chomping where
  | strip
  | clip
  | keep
  deriving Repr, DecidableEq

/-- Reads a chomping mark. -/
def readChomping (c : Cursor) : Option Chomping × Cursor :=
  if c.at? '+' then (some .keep, c.skip)
  else if c.at? '-' then (some .strip, c.skip)
  else (none, c)

/-- Reads an indentation mark. -/
def readIncrement (c : Cursor) : Except SyntaxError (Option Nat × Cursor) :=
  match c.rest with
  | x :: _ =>
    if x = '0' then c.error "found an indentation indicator equal to 0"
    else if x.isDigit then .ok (some (x.toNat - 48), c.skip)
    else .ok (none, c)
  | [] => .ok (none, c)

/-- Reads the marks behind the bar or the angle of a block scalar, which stand in either order. -/
def readBlockMarks (c : Cursor) : Except SyntaxError (Chomping × Option Nat × Cursor) := do
  let (chomping, c) := readChomping c
  let (increment, c) ← readIncrement c
  match chomping with
  | some k => return (k, increment, c)
  | none =>
    if increment.isSome then
      let (chomping, c) := readChomping c
      return (chomping.getD .clip, increment, c)
    else return (.clip, none, c)

/-- Reads a block scalar in a collection that is indented to `outer`, from its bar or angle on. The
result is the text, the mark of its end and the place after it. -/
def readBlock (literal : Bool) (outer : Int) (c : Cursor) :
    Except SyntaxError (String × Mark × Cursor) := do
  let (chomping, increment, c) ← readBlockMarks c.skip
  let c := c.skipToLineEnd
  if !c.atLineEnd then c.error "did not find expected comment or line break"
  let c := c.skipLine
  let given := increment.map fun n => (if 0 ≤ outer then outer.toNat else 0) + n
  let (breaks, c, finish, deepest) ← skipIndentation given (c.rest.length + 1) [] 0 c.mark c
  let indent := given.getD (max (max deepest (outer + 1).toNat) 1)
  let b ← readBlockLines literal indent (c.rest.length + 1) ⟨[], [], breaks, false, finish, c⟩
  let tail := match chomping with
    | .strip => []
    | .clip => b.first
    | .keep => b.first ++ b.later
  return (String.ofList (b.text.reverse ++ tail), b.finish, b.cursor)

end Conformance.Yaml
