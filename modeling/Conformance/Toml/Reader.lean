import Conformance.Toml.Scalar

/-!
# Reading TOML

`Toml.read` reads a whole text as one table. Headers and dotted keys may name a table several times
only in the ways that leave each key with one definition; `descend` finds the table that a key names
and refuses the others. Arrays and tables in braces nest fewer than eighty deep. `place` is the line
and the column that a message gives for a place of the text.
-/

namespace Conformance.Toml

/-- Keys of dotted names and values in each other are fewer than this. -/
def depthBound : Nat := 80

/-- Is the character part of a key without quotes? -/
def isKeyChar (c : Char) : Bool := c.isAlphanum || c = '_' || c = '-'

/-- Reads one part of a key. -/
def readKeyPart (s : List Char) : Reading (String × List Char) :=
  match s with
  | '"' :: rest => readBasic (rest.length + 1) [] rest
  | '\'' :: rest => readLiteral rest
  | _ =>
    let name := s.takeWhile isKeyChar
    if name.isEmpty then absent "invalid key" s
    else .ok (String.ofList name, s.dropWhile isKeyChar)

/-- A part of a key, and its place. -/
abbrev KeyPart := String × Nat

/-- Reads the parts of a key, with points between them; a point that no part follows is left unread.
-/
def readKeyParts (total : Nat) : Nat → List Char → Reading (List KeyPart × List Char)
  | 0, s => absent "invalid key" s
  | fuel + 1, s => do
    let start := skipBlanks s
    let (name, s) ← readKeyPart start
    let s := skipBlanks s
    let part : KeyPart := (name, total - start.length)
    match s with
    | '.' :: rest =>
      match ← ifPresent (readKeyParts total fuel rest) with
      | some (parts, s) => return (part :: parts, s)
      | none => return ([part], s)
    | _ => return ([part], s)

/-- Reads a key of fewer than eighty parts; `total` is the length of the whole text. -/
def readKey (total : Nat) (s : List Char) : Reading (List KeyPart × List Char) := do
  let (parts, rest) ← readKeyParts total (s.length + 1) s
  if depthBound ≤ parts.length then absent "recursion limit exceeded" s else return (parts, rest)

/-- Passes over a comment, if there is one. -/
def skipComment : List Char → List Char
  | '#' :: rest => rest.dropWhile isText
  | s => s

/-- Passes over blanks, breaks and comments, which end with their lines. -/
def skipFiller : Nat → List Char → Reading (List Char)
  | 0, s => .ok s
  | fuel + 1, s =>
    let s := skipBlanks s
    match s, newline? (skipComment s) with
    | '#' :: _, some rest | '\n' :: _, some rest | '\r' :: _, some rest => skipFiller fuel rest
    | '#' :: _, none | '\r' :: _, none =>
      -- The character that is no line break is passed over before it is refused.
      absent "expected newline" ((skipComment s).drop 1)
    | _, _ => .ok s

/-- Puts a value into entries under a key of several parts. The parts but the last name tables that
dotted keys made, or make them, or the last of several tables; `wrap` and `unwrap` tell tables in
braces from others. -/
def insertDotted (wrap : Origin → Entries → Value) (unwrap : Value → Option (Origin × Entries))
    (value : Nat) (v : Value) : List KeyPart → Entries → Option Entries
  | [], _ => none
  | [(name, key)], es =>
    if (es.find? name).isSome then none else some (es ++ [(name, ⟨key, some value⟩, v)])
  | (name, key) :: rest, es =>
    match es.find? name with
    | none => do
      let inner ← insertDotted wrap unwrap value v rest []
      return es ++ [(name, ⟨key, none⟩, wrap .dotted inner)]
    | some (p, .tables (.table o inner :: others)) => do
      if rest.length = 1 then none
      let inner ← insertDotted wrap unwrap value v rest inner
      return es.put name p (.tables (.table o inner :: others))
    | some (p, t) => do
      let (o, inner) ← unwrap t
      if o = .header || (o = .implied && rest.length = 1) then none
      let inner ← insertDotted wrap unwrap value v rest inner
      return es.put name p (wrap o inner)

/-- Puts a value into the entries of a table in braces. -/
def insertInline : Nat → Value → List KeyPart → Entries → Option Entries :=
  insertDotted .inlineTable fun | .inlineTable o es => some (o, es) | _ => none

/-- Puts a value into the entries of a table. -/
def insertPlain : Nat → Value → List KeyPart → Entries → Option Entries :=
  insertDotted .table fun | .table o es => some (o, es) | _ => none

/-- A reader of values. -/
abbrev ValueReader := List Char → Reading (Value × List Char)

/-- Reads one item of an array, with what surrounds it. -/
def readItem (value : ValueReader) (s : List Char) : Reading (Value × List Char) := do
  let s ← skipFiller (s.length + 1) s
  let (v, s) ← value s
  return (v, ← skipFiller (s.length + 1) s)

/-- Reads the items of an array, with a comma between two. If no item stands in front of `s`, the
text `left` is still to be read. -/
def readItems (value : ValueReader) :
    Nat → List Value → List Char → List Char → Reading (List Value × List Char)
  | 0, items, left, _ => .ok (items.reverse, left)
  | fuel + 1, items, left, s => do
    match ← ifPresent (readItem value s) with
    | none => return (items.reverse, left)
    | some (v, ',' :: rest) => readItems value fuel (v :: items) (',' :: rest) rest
    | some (v, rest) => return ((v :: items).reverse, rest)

/-- Reads an array from behind its bracket. -/
def readArray (value : ValueReader) (s : List Char) : Reading (Value × List Char) := do
  match s with
  | ']' :: rest => return (.array [], rest)
  | _ =>
    let (items, s) ← readItems value (s.length + 1) [] s s
    let s := match s with
      | ',' :: rest => rest
      | s => s
    let s ← match skipFiller (s.length + 1) s with
      | .ok s => pure s
      | .error e => broken e.problem e.rest
    return (.array items, ← expect ']' "invalid array" s)

/-- A key with its value, and where the value begins. -/
abbrev Pair := List KeyPart × Nat × Value

/-- Reads an entry of a table in braces. -/
def readPair (value : ValueReader) (total : Nat) (s : List Char) : Reading (Pair × List Char) := do
  let (key, s) ← readKey total s
  let start := skipBlanks (← expect '=' "expected an equals sign" s)
  match value start with
  | .error e => broken e.problem e.rest
  | .ok (v, rest) => return ((key, total - start.length, v), skipBlanks rest)

/-- Reads the entries of a table in braces, with a comma between two. If no entry stands in front of
`s`, the text `left` is still to be read. -/
def readPairs (value : ValueReader) (total : Nat) :
    Nat → List Pair → List Char → List Char → Reading (List Pair × List Char)
  | 0, pairs, left, _ => .ok (pairs.reverse, left)
  | fuel + 1, pairs, left, s => do
    match ← ifPresent (readPair value total s) with
    | none => return (pairs.reverse, left)
    | some (pair, ',' :: rest) => readPairs value total fuel (pair :: pairs) (',' :: rest) rest
    | some (pair, rest) => return ((pair :: pairs).reverse, rest)

/-- Reads a table in braces from behind the first. -/
def readInline (value : ValueReader) (total : Nat) (s : List Char) : Reading (Value × List Char) :=
  do
  let (pairs, rest) ← readPairs value total (s.length + 1) [] s s
  match pairs.foldlM (fun es (key, start, v) => insertInline start v key es) [] with
  | none => broken "duplicate key" s
  | some es =>
    return (.inlineTable .header es, ← expect '\x7d' "invalid inline table" (skipBlanks rest))

/-- Reads a value; `total` is the length of the whole text. -/
def readValue (total : Nat) : Nat → ValueReader
  | depth, s =>
    match s with
    | '"' :: _ | '\'' :: _ => (readString s).map fun (t, r) => (.string t, r)
    | '[' :: rest =>
      match depth with
      | 0 | 1 => absent "recursion limit exceeded" s
      | depth + 2 => readArray (readValue total (depth + 1)) rest
    | '\x7b' :: rest =>
      match depth with
      | 0 | 1 => absent "recursion limit exceeded" s
      | depth + 2 => readInline (readValue total (depth + 1)) total rest
    | c :: _ =>
      match behind? "true" s, behind? "false" s, specialFloat? false s with
      | some rest, _, _ => .ok (.boolean true, rest)
      | _, some rest, _ => .ok (.boolean false, rest)
      | _, _, some r => .ok r
      | _, _, _ =>
        if c = '+' || c = '-' || c.isDigit then readNumber s
        else if c = 't' || c = 'f' then broken "invalid string" s
        else absent "invalid value" s
    | [] => absent "invalid value" []

/-- Reads a blank, a comment and the end of a line. -/
def readLineEnd (s : List Char) : Reading (List Char) :=
  let s := skipComment (skipBlanks s)
  match s, newline? s with
  | [], _ => .ok []
  | _, some rest => .ok rest
  | s, none => broken "expected newline or end of input" s

/-- The table that a header names within `es`; `change` is applied to the entries in front of its
last part. Tables on the way are made as needed, and of several tables the last counts. -/
def descend (change : KeyPart → Entries → Option Entries) : List KeyPart → Entries → Option Entries
  | [], _ => none
  | [part], es => change part es
  | (name, key) :: rest, es =>
    match es.find? name with
    | none => do
      let inner ← descend change rest []
      return es ++ [(name, ⟨key, none⟩, .table .implied inner)]
    | some (p, .table o inner) => do
      let inner ← descend change rest inner
      return es.put name p (.table o inner)
    | some (p, .tables (.table o inner :: others)) => do
      let inner ← descend change rest inner
      return es.put name p (.tables (.table o inner :: others))
    | some _ => none

/-- A document in the making: the table that lines now go to, the key that its header gave it, where
the header stands, and whether it stood in double brackets. -/
structure Draft where
  root : Entries := []
  header : List KeyPart := []
  place : Nat := 0
  several : Bool := false
  current : Entries := []

/-- The root with the present table put in. -/
def Draft.close (d : Draft) : Option Entries :=
  if d.header.isEmpty then some d.current
  else if d.several then
    descend (fun (name, key) es =>
      match es.find? name with
      | none => some (es ++ [(name, ⟨key, some d.place⟩, .tables [.table .header d.current])])
      | some (p, .tables ts) => some (es.put name p (.tables (.table .header d.current :: ts)))
      | some _ => none) d.header d.root
  else
    descend (fun (name, key) es =>
      match es.find? name with
      | none => some (es ++ [(name, ⟨key, some d.place⟩, .table .header d.current)])
      | some (p, .table .implied _) => some (es.put name p (.table .header d.current))
      | some _ => none) d.header d.root

/-- Starts the table of a header. -/
def Draft.openTable (d : Draft) (header : List KeyPart) (place : Nat) : Option Draft := do
  let root ← d.close
  -- A table that longer headers implied goes on as the present one.
  let rec look : List KeyPart → Entries → Option Entries
    | [], _ => none
    | [(name, _)], es =>
      match es.find? name with
      | none => some []
      | some (_, .table .implied inner) => some inner
      | some _ => none
    | (name, _) :: rest, es =>
      match es.find? name with
      | none => some []
      | some (_, .table _ inner) => look rest inner
      | some (_, .tables (.table _ inner :: _)) => look rest inner
      | some _ => none
  let current ← look header root
  let root ← descend (fun (name, _) es => some (es.filter (·.1 != name))) header root
  return ⟨root, header, place, false, current⟩

/-- Starts one of the tables of a header in double brackets. -/
def Draft.openTables (d : Draft) (header : List KeyPart) (place : Nat) : Option Draft := do
  let root ← d.close
  let root ← descend (fun (name, key) es =>
    match es.find? name with
    | none => some (es ++ [(name, ⟨key, some place⟩, .tables [])])
    | some (_, .tables _) => some es
    | some _ => none) header root
  return ⟨root, header, place, true, []⟩

/-- Reads a header and the end of its line, from its first bracket on. -/
def readHeader (total : Nat) (d : Draft) (s : List Char) : Reading (Draft × List Char) := do
  let place := total - s.length
  let (opened, rest) ← match s with
    | '[' :: '[' :: rest => do
      let (key, rest) ← readKey total rest
      match rest with
      | ']' :: ']' :: rest => pure (d.openTables key place, rest)
      | _ => broken "invalid table header" rest
    | _ => do
      let (key, rest) ← readKey total (s.drop 1)
      pure (d.openTable key place, ← expect ']' "invalid table header" rest)
  let rest ← readLineEnd rest
  match opened with
  | some d => return (d, rest)
  | none => broken "duplicate key" s

/-- Reads lines to the end of the text. -/
def readLines (total : Nat) : Nat → Draft → List Char → Reading Draft
  | 0, d, _ => .ok d
  | fuel + 1, d, s => do
    let s := skipBlanks s
    match s with
    | [] => return d
    -- A bracket at the very end begins no header.
    | ['['] => broken "invalid table header" s
    | '[' :: _ =>
      let (d, s) ← readHeader total d s
      readLines total fuel d s
    | c :: _ =>
      if c = '#' || c = '\n' || c = '\r' then readLines total fuel d (← readLineEnd s)
      else
        let (key, rest) ← readKey total s
        let start := skipBlanks (← expect '=' "expected an equals sign" rest)
        let (v, rest) ← readValue total depthBound start
        let rest ← readLineEnd rest
        match insertPlain (total - start.length) v key d.current with
        | some es => readLines total fuel { d with current := es } rest
        | none => broken "duplicate key" s

/-- The table that a text writes. -/
def read (text : String) : Reading Entries := do
  let s := text.toList
  let body := match s with
    | '\uFEFF' :: rest => rest
    | s => s
  let d ← readLines s.length (s.length + 1) {} body
  match d.close with
  | some es => return es
  | none => broken "duplicate key" []

/-- The line and the column, from one, of the character behind the first `n` of a text. The column
counts characters, but bytes if the character itself has several; and the end of the text is one
column behind its last character, even if that ends a line. -/
def place (text : String) (n : Nat) : Nat × Nat :=
  let cs := text.toList
  let lineOf (before : List Char) : Nat := before.count '\n' + 1
  let inLine (before : List Char) : List Char := (before.reverse.takeWhile (· ≠ '\n')).reverse
  match cs.drop n with
  | [] =>
    if cs.isEmpty then (1, 1) else (lineOf cs.dropLast, (inLine cs.dropLast).length + 2)
  | c :: _ =>
    let before := cs.take n
    let column :=
      if c.toNat < 0x80 then (inLine before).length
      else (String.ofList (inLine before)).utf8ByteSize
    (lineOf before, column + 1)

end Conformance.Toml
