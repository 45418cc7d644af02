import Conformance.Yaml.Token

/-!
# YAML events

The nodes of a stream of YAML documents in the order of their text, each collection between the
event of its start and that of its end. `Parser.next` gives one event at a time; a stack of
`Expected` states what the grammar waits for once the present node is complete.
-/

namespace Conformance.Yaml

/-- What an event is. -/
inductive Event where
  | documentStart
  | documentEnd
  | streamEnd
  | alias (name : String)
  | scalar (anchor tag : Option String) (text : String) (style : Style)
  | sequenceStart (anchor tag : Option String)
  | sequenceEnd
  | mappingStart (anchor tag : Option String)
  | mappingEnd
  deriving Repr, DecidableEq, Inhabited

/-- What the grammar waits for. -/
inductive Expected where
  | streamStart
  | firstDocument
  | document
  | documentContent
  | documentEnd
  | blockNode
  | blockSequenceStart
  | blockSequenceEntry
  | indentlessEntry
  | blockMappingStart
  | blockMappingKey
  | blockMappingValue
  | flowSequenceStart
  | flowSequenceEntry
  | pairKey
  | pairValue
  | pairEnd
  | flowMappingStart
  | flowMappingKey
  | flowMappingValue
  | flowMappingNoValue
  | nothing
  deriving Repr, DecidableEq, Inhabited

/-- What is known between two events. -/
structure Parser where
  scanner : Scanner
  expected : Expected := .streamStart
  /-- What is expected after the nodes that are open. -/
  later : List Expected := []
  /-- The handles that the document's directives name. -/
  handles : List (String × String) := []

/-- The answer of a step: an event with its mark, or none if the step gives no event. -/
abbrev Step := Except SyntaxError (Option (Event × Mark) × Parser)

namespace Parser

/-- The parser at the start of a text. -/
def ofText (s : List Char) : Parser := { scanner := .ofText s }

/-- The next token, which stays in front. -/
def peek (p : Parser) : Except SyntaxError (Token × Parser) := do
  let (t, s) ← p.scanner.peek
  return (t, { p with scanner := s })

/-- Takes the token in front. -/
def skip (p : Parser) : Parser := { p with scanner := p.scanner.next }

/-- The parser that waits for `e`. -/
def expect (p : Parser) (e : Expected) : Parser := { p with expected := e }

/-- The parser that waits for `e` once the next node is complete. -/
def after (p : Parser) (e : Expected) : Parser := { p with later := e :: p.later }

/-- The parser behind a complete node. -/
def close (p : Parser) : Parser :=
  match p.later with
  | e :: rest => { p with expected := e, later := rest }
  | [] => { p with expected := .nothing }

/-- The error that something is wrong at a token. -/
def error {α : Type} (t : Token) (problem : String) : Except SyntaxError α :=
  .error ⟨problem, t.start⟩

/-- An event and the parser behind it. -/
def emit (p : Parser) (e : Event) (m : Mark) : Step := .ok (some (e, m), p)

/-- A node without text. -/
def emitEmpty (p : Parser) (m : Mark) : Step := p.emit (.scalar none none "" .plain) m

/-- The anchor and the tag in front of a node, in either order; the mark is that of the first. -/
def properties (p : Parser) :
    Except SyntaxError (Option String × Option WrittenTag × Option Mark × Parser) := do
  let (t, p) ← p.peek
  match t.kind with
  | .anchor a =>
    let (u, q) ← p.skip.peek
    match u.kind with
    | .tag w => return (some a, some w, some t.start, q.skip)
    | _ => return (some a, none, some t.start, q)
  | .tag w =>
    let (u, q) ← p.skip.peek
    match u.kind with
    | .anchor a => return (some a, some w, some t.start, q.skip)
    | _ => return (none, some w, some t.start, q)
  | _ => return (none, none, none, p)

/-- The tag that a written tag stands for. -/
def resolveTag (p : Parser) (start : Mark) : Option WrittenTag → Except SyntaxError (Option String)
  | none => .ok none
  | some w =>
    match expandTag? p.handles w with
    | some t => .ok (some t)
    | none => .error ⟨"found undefined tag handle", start⟩

/-- Reads the start of a node. `block` tells whether a block collection may stand here, `indentless`
whether a block sequence may stand at the indentation of its key. -/
def node (p : Parser) (block indentless : Bool) : Step := do
  let (t, p) ← p.peek
  match t.kind with
  | .alias name => p.close.skip.emit (.alias name) t.start
  | _ =>
    let (anchor, written, mark, p) ← p.properties
    let (t, p) ← p.peek
    let start := mark.getD t.start
    let tag ← p.resolveTag start written
    match t.kind, block with
    | .scalar text style, _ =>
      p.close.skip.emit (.scalar anchor tag text style) start
    | .flowSequenceStart, _ => (p.expect .flowSequenceStart).emit (.sequenceStart anchor tag) start
    | .flowMappingStart, _ => (p.expect .flowMappingStart).emit (.mappingStart anchor tag) start
    | .blockSequenceStart, true =>
      (p.expect .blockSequenceStart).emit (.sequenceStart anchor tag) start
    | .blockMappingStart, true =>
      (p.expect .blockMappingStart).emit (.mappingStart anchor tag) start
    | kind, _ =>
      if indentless && kind = .blockEntry then
        (p.expect .indentlessEntry).emit (.sequenceStart anchor tag) start
      else if mark.isSome then p.close.emit (.scalar anchor tag "" .plain) start
      else error t "did not find expected node content"

/-- Reads a node, or an empty one at `m` if one of the given tokens stands in its place. -/
def nodeUnless (p : Parser) (stops : List TokenKind) (m : Mark) (next : Expected)
    (block indentless : Bool) : Step := do
  let (t, p) ← p.peek
  if stops.contains t.kind then (p.expect next).emitEmpty m
  else (p.after next).node block indentless

/-- Reads the directives of a document. -/
def directives (p : Parser) : Nat → Bool → List (String × String) → Except SyntaxError Parser
  | 0, _, _ => .ok p
  | fuel + 1, versioned, handles => do
    let (t, p) ← p.peek
    match t.kind with
    | .directive (.version major minor) =>
      if versioned then error t "found duplicate %YAML directive"
      if major ≠ 1 || (minor ≠ 1 && minor ≠ 2) then error t "found incompatible YAML document"
      p.skip.directives fuel true handles
    | .directive (.tag handle text) =>
      if handles.any (·.1 == handle) then error t "found duplicate %TAG directive"
      p.skip.directives fuel versioned (handles ++ [(handle, text)])
    | _ => return { p with handles := handles }

/-- Reads a document's start that is marked as one, or the end of the stream. -/
def markedDocument (p : Parser) : Step := do
  let (t, p) ← p.peek
  if t.kind = .streamEnd then (p.skip.expect .nothing).emit .streamEnd t.start
  else
    let p ← p.directives (p.scanner.cursor.rest.length + 8) false []
    let (u, p) ← p.peek
    if u.kind ≠ .documentStart then error u "did not find expected <document start>"
    ((p.skip.after .documentEnd).expect .documentContent).emit .documentStart t.start

/-- Passes over further marks of a document's end. -/
def skipDocumentEnds : Nat → Parser → Except SyntaxError Parser
  | 0, p => .ok p
  | fuel + 1, p => do
    let (t, p) ← p.peek
    if t.kind = .documentEnd then skipDocumentEnds fuel p.skip else return p

/-- Does the token belong before a document that is marked as one, or end the stream? -/
def opensMarked (t : Token) : Bool :=
  match t.kind with
  | .directive _ | .documentStart | .streamEnd => true
  | _ => false

/-- Reads the end of a collection. -/
def closeCollection (p : Parser) (e : Event) (t : Token) : Step := p.close.skip.emit e t.start

/-- Reads what stands behind the comma of a flow sequence, or behind its bracket. -/
def flowSequenceItem (p : Parser) : Step := do
  let (t, p) ← p.peek
  match t.kind with
  | .flowSequenceEnd => p.closeCollection .sequenceEnd t
  | .key => (p.skip.expect .pairKey).emit (.mappingStart none none) t.start
  | _ => (p.after .flowSequenceEntry).node false false

/-- Reads what stands behind the comma of a flow mapping, or behind its brace. -/
def flowMappingItem (p : Parser) : Step := do
  let (t, p) ← p.peek
  match t.kind with
  | .flowMappingEnd => p.closeCollection .mappingEnd t
  | .key =>
    let (u, p) ← p.skip.peek
    p.nodeUnless [.value, .flowEntry, .flowMappingEnd] u.start .flowMappingValue false false
  | _ => (p.after .flowMappingNoValue).node false false

/-- One step of the grammar. -/
def step (p : Parser) : Step := do
  let (t, p) ← p.peek
  match p.expected with
  | .streamStart => return (none, p.skip.expect .firstDocument)
  | .firstDocument =>
    if opensMarked t then p.markedDocument
    else ((p.after .documentEnd).expect .blockNode).emit .documentStart t.start
  | .document =>
    let p ← skipDocumentEnds (p.scanner.cursor.rest.length + 8) p
    p.markedDocument
  | .documentContent =>
    if opensMarked t || t.kind = .documentEnd then p.close.emitEmpty t.start
    else p.node true false
  | .documentEnd =>
    let q := if t.kind = .documentEnd then p.skip else p
    { q with handles := [], expected := .document }.emit .documentEnd t.start
  | .blockNode => p.node true false
  | .blockSequenceStart => return (none, p.skip.expect .blockSequenceEntry)
  | .blockSequenceEntry =>
    match t.kind with
    | .blockEntry =>
      p.skip.nodeUnless [.blockEntry, .blockEnd] t.finish .blockSequenceEntry true false
    | .blockEnd => p.closeCollection .sequenceEnd t
    | _ => error t "did not find expected '-' indicator"
  | .indentlessEntry =>
    match t.kind with
    | .blockEntry =>
      p.skip.nodeUnless [.blockEntry, .key, .value, .blockEnd] t.finish .indentlessEntry true false
    | _ => p.close.emit .sequenceEnd t.start
  | .blockMappingStart => return (none, p.skip.expect .blockMappingKey)
  | .blockMappingKey =>
    match t.kind with
    | .key => p.skip.nodeUnless [.key, .value, .blockEnd] t.finish .blockMappingValue true true
    | .blockEnd => p.closeCollection .mappingEnd t
    | _ => error t "did not find expected key"
  | .blockMappingValue =>
    match t.kind with
    | .value => p.skip.nodeUnless [.key, .value, .blockEnd] t.finish .blockMappingKey true true
    | _ => (p.expect .blockMappingKey).emitEmpty t.start
  | .flowSequenceStart => p.skip.flowSequenceItem
  | .flowSequenceEntry =>
    match t.kind with
    | .flowSequenceEnd => p.closeCollection .sequenceEnd t
    | .flowEntry => p.skip.flowSequenceItem
    | _ => error t "did not find expected ',' or ']'"
  | .pairKey =>
    match t.kind with
    | .value | .flowEntry | .flowSequenceEnd => (p.skip.expect .pairValue).emitEmpty t.finish
    | _ => (p.after .pairValue).node false false
  | .pairValue =>
    match t.kind with
    | .value =>
      let (u, q) ← p.skip.peek
      q.nodeUnless [.flowEntry, .flowSequenceEnd] u.start .pairEnd false false
    | _ => (p.expect .pairEnd).emitEmpty t.start
  | .pairEnd => (p.expect .flowSequenceEntry).emit .mappingEnd t.start
  | .flowMappingStart => p.skip.flowMappingItem
  | .flowMappingKey =>
    match t.kind with
    | .flowMappingEnd => p.closeCollection .mappingEnd t
    | .flowEntry => p.skip.flowMappingItem
    | _ => error t "did not find expected ',' or '\x7d'"
  | .flowMappingValue =>
    match t.kind with
    | .value =>
      let (u, q) ← p.skip.peek
      q.nodeUnless [.flowEntry, .flowMappingEnd] u.start .flowMappingKey false false
    | _ => (p.expect .flowMappingKey).emitEmpty t.start
  | .flowMappingNoValue => (p.expect .flowMappingKey).emitEmpty t.start
  | .nothing => (p.expect .nothing).emit .streamEnd t.start

/-- The next event. -/
def next (p : Parser) : Nat → Except SyntaxError (Event × Mark × Parser)
  | 0 => p.scanner.cursor.error "found unexpected end of stream"
  | fuel + 1 => do
    match ← p.step with
    | (some (e, m), p) => return (e, m, p)
    | (none, p) => p.next fuel

end Parser

end Conformance.Yaml
