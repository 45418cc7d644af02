import Conformance.Yaml.Tag

/-!
# YAML tokens

A YAML text as a run of tokens. Indentation shows up as tokens that open and close block
collections. Whether a scalar is a key is known only when a colon follows on its line; till then a
`Candidate` remembers where the tokens that make it a key would go, and the tokens from there on are
held back. `Scanner.peek` reads on as far as it must to give the next token.
-/

namespace Conformance.Yaml

/-- What a token is. -/
inductive TokenKind where
  | streamStart
  | streamEnd
  | directive (d : Directive)
  | documentStart
  | documentEnd
  | blockSequenceStart
  | blockMappingStart
  | blockEnd
  | flowSequenceStart
  | flowSequenceEnd
  | flowMappingStart
  | flowMappingEnd
  | blockEntry
  | flowEntry
  | key
  | value
  | alias (name : String)
  | anchor (name : String)
  | tag (t : WrittenTag)
  | scalar (text : String) (style : Style)
  deriving Repr, DecidableEq, Inhabited

/-- A token and the marks of its two ends. -/
structure Token where
  kind : TokenKind
  start : Mark
  finish : Mark
  deriving Repr, Inhabited

/-- A place where a key may turn out to begin. -/
structure Candidate where
  /-- Must it be a key, because nothing else may stand at its indentation? -/
  required : Bool
  /-- The number of the token in front of which the key's token goes. -/
  number : Nat
  mark : Mark
  deriving Repr

/-- What is known between two tokens. -/
structure Scanner where
  cursor : Cursor
  /-- Has the token of the stream's start been made? -/
  started : Bool := false
  /-- Has the token of the stream's end been made? -/
  ended : Bool := false
  /-- Tokens made and not yet taken. -/
  queue : List Token := []
  /-- How many tokens were taken. -/
  taken : Nat := 0
  /-- How many flow collections are open. -/
  flow : Nat := 0
  /-- The indentation of the innermost block collection; -1 outside of all. -/
  indent : Int := -1
  /-- The indentations of the collections around it. -/
  outer : List Int := []
  /-- May a key begin here? -/
  keyAllowed : Bool := true
  /-- The candidate of the innermost flow collection, if any. -/
  candidate : Option Candidate := none
  /-- The candidates of the collections around it. -/
  outerCandidates : List (Option Candidate) := []

namespace Scanner

/-- The scanner at the start of a text. -/
def ofText (s : List Char) : Scanner := { cursor := .ofText s }

/-- Appends a token. -/
def push (s : Scanner) (kind : TokenKind) (start finish : Mark) : Scanner :=
  { s with queue := s.queue ++ [⟨kind, start, finish⟩] }

/-- Puts a token before the one with the given number. -/
def insertAt (s : Scanner) (number : Nat) (kind : TokenKind) (mark : Mark) : Scanner :=
  let n := number - s.taken
  { s with queue := s.queue.take n ++ ⟨kind, mark, mark⟩ :: s.queue.drop n }

/-- Opens a block collection if the column lies deeper than the innermost one; `number` is the token
before which it begins, the next one if none is given. -/
def openBlock (s : Scanner) (column : Nat) (number : Option Nat) (kind : TokenKind) (mark : Mark) :
    Scanner :=
  if s.flow = 0 && s.indent < column then
    let s := { s with outer := s.indent :: s.outer, indent := column }
    match number with
    | none => s.push kind mark mark
    | some n => s.insertAt n kind mark
  else s

/-- Closes the block collections that lie deeper than a column; `outer` bounds how many. -/
def closeBlocksTo (column : Int) : List Int → Scanner → Scanner
  | [], s => s
  | o :: rest, s =>
    if column < s.indent then
      let s := s.push .blockEnd s.cursor.mark s.cursor.mark
      closeBlocksTo column rest { s with indent := o, outer := rest }
    else s

/-- Closes the block collections that lie deeper than a column. -/
def closeBlocks (s : Scanner) (column : Int) : Scanner :=
  if s.flow = 0 then closeBlocksTo column s.outer s else s

/-- The error of a key that lacks its colon. -/
def missingColon {α : Type} (k : Candidate) : Except SyntaxError α :=
  .error ⟨"could not find expected ':'", k.mark⟩

/-- Gives up the innermost candidate. -/
def dropCandidate (s : Scanner) : Except SyntaxError Scanner :=
  match s.candidate with
  | some k => if k.required then missingColon k else .ok { s with candidate := none }
  | none => .ok s

/-- Remembers that a key may begin here. -/
def markCandidate (s : Scanner) : Except SyntaxError Scanner :=
  if s.keyAllowed then do
    let required := s.flow = 0 && s.indent = s.cursor.mark.column
    let number := s.taken + s.queue.length
    let s ← s.dropCandidate
    return { s with candidate := some ⟨required, number, s.cursor.mark⟩ }
  else .ok s

/-- Is it too late for the candidate to be a key? A key stays on one line and below 1025
characters. -/
def isStale (m : Mark) (k : Candidate) : Bool :=
  k.mark.line < m.line || k.mark.index + 1024 < m.index

/-- Gives up a candidate that is too late. -/
def freshOnly (m : Mark) : Option Candidate → Except SyntaxError (Option Candidate)
  | none => .ok none
  | some k =>
    if isStale m k then (if k.required then missingColon k else .ok none) else .ok (some k)

/-- Gives up all candidates that are too late. -/
def dropStale (s : Scanner) : Except SyntaxError Scanner := do
  let outer ← s.outerCandidates.reverse.mapM (freshOnly s.cursor.mark)
  let inner ← freshOnly s.cursor.mark s.candidate
  return { s with candidate := inner, outerCandidates := outer.reverse }

/-- Passes over blanks, comments and breaks; a break outside of flow collections lets a key begin. A
tab passes where no key may begin. -/
def toNextToken : Nat → Scanner → Scanner
  | 0, s => s
  | fuel + 1, s =>
    let c := s.cursor
    let c := if c.mark.column = 0 && c.at? '\uFEFF' then c.skip else c
    let tabs := s.flow ≠ 0 || !s.keyAllowed
    let c := c.skipWhile fun x => x = ' ' || (tabs && x = '\t')
    let c := if c.at? '#' then c.skipWhile (!isBreak ·) else c
    if c.is isBreak 0 then
      toNextToken fuel
        { s with cursor := c.skipLine, keyAllowed := s.keyAllowed || s.flow = 0 }
    else { s with cursor := c }

/-- Makes a token of the next `n` characters. -/
def take (s : Scanner) (kind : TokenKind) (n : Nat) : Scanner :=
  let c := s.cursor.skipN n
  { s.push kind s.cursor.mark c.mark with cursor := c }

/-- Ends the stream. -/
def fetchEnd (s : Scanner) : Except SyntaxError Scanner := do
  let m := s.cursor.mark
  let m := if m.column = 0 then m else ⟨m.index, m.line + 1, 0⟩
  let s := { s with cursor := { s.cursor with mark := m } }.closeBlocks (-1)
  let s ← s.dropCandidate
  return { s.push .streamEnd m m with keyAllowed := false, ended := true }

/-- Makes the token of a directive. -/
def fetchDirective (s : Scanner) : Except SyntaxError Scanner := do
  let s ← (s.closeBlocks (-1)).dropCandidate
  let (d, finish, c) ← readDirective s.cursor
  return { s.push (.directive d) s.cursor.mark finish with cursor := c, keyAllowed := false }

/-- Makes the token of a document's start or end. -/
def fetchDocumentMark (s : Scanner) (kind : TokenKind) : Except SyntaxError Scanner := do
  let s ← (s.closeBlocks (-1)).dropCandidate
  return { s.take kind 3 with keyAllowed := false }

/-- Opens a flow collection. -/
def fetchFlowStart (s : Scanner) (kind : TokenKind) : Except SyntaxError Scanner := do
  let s ← s.markCandidate
  let s := { s with
    outerCandidates := s.candidate :: s.outerCandidates, candidate := none, flow := s.flow + 1,
    keyAllowed := true }
  return s.take kind 1

/-- Closes a flow collection. -/
def fetchFlowEnd (s : Scanner) (kind : TokenKind) : Except SyntaxError Scanner := do
  let s ← s.dropCandidate
  let s := match s.outerCandidates with
    | k :: rest => { s with candidate := k, outerCandidates := rest, flow := s.flow - 1 }
    | [] => s
  return { s with keyAllowed := false }.take kind 1

/-- Makes the token between two entries of a flow collection. -/
def fetchFlowEntry (s : Scanner) : Except SyntaxError Scanner := do
  let s ← s.dropCandidate
  return { s with keyAllowed := true }.take .flowEntry 1

/-- Makes the token of an entry of a block sequence. -/
def fetchBlockEntry (s : Scanner) : Except SyntaxError Scanner := do
  if s.flow = 0 && !s.keyAllowed then
    s.cursor.error "block sequence entries are not allowed in this context"
  let m := s.cursor.mark
  let s ← (s.openBlock m.column none .blockSequenceStart m).dropCandidate
  return { s with keyAllowed := true }.take .blockEntry 1

/-- Makes the token of a key that is marked as one. -/
def fetchKey (s : Scanner) : Except SyntaxError Scanner := do
  if s.flow = 0 && !s.keyAllowed then
    s.cursor.error "mapping keys are not allowed in this context"
  let m := s.cursor.mark
  let s ← (s.openBlock m.column none .blockMappingStart m).dropCandidate
  return { s with keyAllowed := s.flow = 0 }.take .key 1

/-- Makes the token of a value, and that of its key if a candidate stands before it. -/
def fetchValue (s : Scanner) : Except SyntaxError Scanner := do
  match s.candidate with
  | some k =>
    let s := s.insertAt k.number .key k.mark
    let s := s.openBlock k.mark.column (some k.number) .blockMappingStart k.mark
    return { s with candidate := none, keyAllowed := false }.take .value 1
  | none =>
    if s.flow = 0 && !s.keyAllowed then
      s.cursor.error "mapping values are not allowed in this context"
    let m := s.cursor.mark
    let s := s.openBlock m.column none .blockMappingStart m
    return { s with keyAllowed := s.flow = 0 }.take .value 1

/-- Makes the token of an anchor or an alias. -/
def fetchAnchor (s : Scanner) (kind : String → TokenKind) : Except SyntaxError Scanner := do
  let s ← s.markCandidate
  let (name, c) ← readAnchor s.cursor
  return { s.push (kind name) s.cursor.mark c.mark with cursor := c, keyAllowed := false }

/-- Makes the token of a tag. -/
def fetchTag (s : Scanner) : Except SyntaxError Scanner := do
  let s ← s.markCandidate
  let (t, c) ← readTag (s.flow ≠ 0) s.cursor
  return { s.push (.tag t) s.cursor.mark c.mark with cursor := c, keyAllowed := false }

/-- Makes the token of a block scalar. -/
def fetchBlock (s : Scanner) (literal : Bool) : Except SyntaxError Scanner := do
  let s ← s.dropCandidate
  let (text, finish, c) ← readBlock literal s.indent s.cursor
  let kind := TokenKind.scalar text (if literal then .literal else .folded)
  return { s.push kind s.cursor.mark finish with cursor := c, keyAllowed := true }

/-- Makes the token of a quoted scalar. -/
def fetchQuoted (s : Scanner) (single : Bool) : Except SyntaxError Scanner := do
  let s ← s.markCandidate
  let (text, c) ← readQuoted single s.cursor
  let kind := TokenKind.scalar text (if single then .singleQuoted else .doubleQuoted)
  return { s.push kind s.cursor.mark c.mark with cursor := c, keyAllowed := false }

/-- Makes the token of a plain scalar. -/
def fetchPlain (s : Scanner) : Except SyntaxError Scanner := do
  let s ← s.markCandidate
  let p ← readPlain (s.flow ≠ 0) (s.indent + 1).toNat s.cursor
  let kind := TokenKind.scalar (String.ofList p.text.reverse) .plain
  return { s.push kind s.cursor.mark p.finish with cursor := p.cursor, keyAllowed := p.broken }

/-- May a plain scalar begin here? -/
def startsPlain (s : Scanner) : Bool :=
  let c := s.cursor
  (!c.isGap 0 && !c.oneOf "-?:,[]\x7b\x7d#&*!|>'\"%@`" 0)
    || (c.at? '-' && !c.is isBlank 1)
    || (s.flow = 0 && (c.at? '?' || c.at? ':') && !c.isGap 1)

/-- Makes the tokens that begin here. -/
def fetchHere (s : Scanner) : Except SyntaxError Scanner :=
  let c := s.cursor
  let inFlow := s.flow ≠ 0
  match c.rest with
  | [] => s.fetchEnd
  | x :: _ =>
    if c.mark.column = 0 && x = '%' then s.fetchDirective
    else if c.atDocumentMark then
      s.fetchDocumentMark (if x = '-' then .documentStart else .documentEnd)
    else if x = '[' then s.fetchFlowStart .flowSequenceStart
    else if x = '\x7b' then s.fetchFlowStart .flowMappingStart
    else if x = ']' then s.fetchFlowEnd .flowSequenceEnd
    else if x = '\x7d' then s.fetchFlowEnd .flowMappingEnd
    else if x = ',' then s.fetchFlowEntry
    else if x = '-' && c.isGap 1 then s.fetchBlockEntry
    else if x = '?' && (inFlow || c.isGap 1) then s.fetchKey
    else if x = ':' && (inFlow || c.isGap 1) then s.fetchValue
    else if x = '*' then s.fetchAnchor .alias
    else if x = '&' then s.fetchAnchor .anchor
    else if x = '!' then s.fetchTag
    else if x = '|' && !inFlow then s.fetchBlock true
    else if x = '>' && !inFlow then s.fetchBlock false
    else if x = '\'' then s.fetchQuoted true
    else if x = '"' then s.fetchQuoted false
    else if s.startsPlain then s.fetchPlain
    else c.error "found character that cannot start any token"

/-- Makes the next tokens. -/
def fetch (s : Scanner) : Except SyntaxError Scanner := do
  if s.started then
    let s ← (s.toNextToken (s.cursor.rest.length + 1)).dropStale
    (s.closeBlocks s.cursor.mark.column).fetchHere
  else
    let m := s.cursor.mark
    return { s.push .streamStart m m with started := true }

/-- Does a candidate hold back the token in front? -/
def holdsFront (s : Scanner) : Bool :=
  (s.candidate :: s.outerCandidates).any fun k => k.any (·.number == s.taken)

/-- Makes tokens until the one in front is certain. -/
def fill : Nat → Scanner → Except SyntaxError Scanner
  | 0, s => .ok s
  | fuel + 1, s =>
    if s.queue.isEmpty then
      if s.ended then .ok s else s.fetch >>= fill fuel
    else do
      let s ← s.dropStale
      if s.holdsFront then s.fetch >>= fill fuel else return s

/-- The next token, which stays in front. -/
def peek (s : Scanner) : Except SyntaxError (Token × Scanner) := do
  let s ← s.fill (2 * s.cursor.rest.length + 8)
  match s.queue with
  | t :: _ => return (t, s)
  | [] => s.cursor.error "found unexpected end of stream"

/-- Takes the token in front. -/
def next (s : Scanner) : Scanner := { s with queue := s.queue.drop 1, taken := s.taken + 1 }

end Scanner

end Conformance.Yaml
