import Conformance.Decimal.Reader
import Conformance.Mismatch
import Conformance.Yaml.Document

/-!
# Data in a YAML document

Readers for texts, options, names of variants, lists and records, each of which takes the place of a
node and gives the place behind it. An alias is read at the node it stands for. A mismatch is
reported with the place and the path of the innermost reader that encloses it.
-/

namespace Conformance.Yaml

/-- Why a document is not the data that is wanted. -/
inductive Fault where
  | mismatch (m : Mismatch) (place : Option (Mark × String))
  | cut (c : Cut)
  | endOfStream
  | tooManyAliases
  | severalDocuments
  deriving Repr

/-- A reader: it counts the aliases followed. -/
abbrev Read := StateT Nat (Except Fault)

/-- The path of a field. -/
def fieldPath (path : String) (name : String) : String :=
  if path = "" then name else path ++ "." ++ name

/-- The path of an item. -/
def itemPath (path : String) (i : Nat) : String := path ++ "[" ++ toString i ++ "]"

/-- Gives a mismatch that has no place yet the given one. -/
def Fault.locate (mark : Mark) (path : String) : Fault → Fault
  | .mismatch m none => .mismatch m (some (mark, path))
  | f => f

/-- Gives a mismatch in `r` that has no place yet the given one. -/
def located {α : Type} (mark : Mark) (path : String) (r : Read α) : Read α := fun n =>
  (r n).mapError (Fault.locate mark path)

/-- Fails with a mismatch that has no place yet. -/
def mismatch {α : Type} (m : Mismatch) : Read α := throw (.mismatch m none)

namespace Document

/-- The node at a place. -/
def node (d : Document) (place : Nat) : Read (Node × Mark) :=
  match d.nodes[place]? with
  | some n => pure n
  | none =>
    match d.cut with
    | some c => throw (.cut c)
    | none => throw .endOfStream

/-- A node, the place where it begins, and, if it was reached by an alias, the mark of that and
where to go on behind it. -/
structure Target where
  node : Node
  mark : Mark
  place : Nat
  aliasMark : Option Mark := none
  behind : Option Nat := none

/-- The node at a place; for an alias, the node it stands for. Aliases may be followed a hundred
times as often as there are events. -/
def target (d : Document) (place : Nat) : Read Target := do
  let (n, m) ← d.node place
  match n with
  | .alias id =>
    modify (· + 1)
    if d.nodes.size * 100 < (← get) then throw .tooManyAliases
    let t := ((d.anchors.find? (·.1 = id)).map (·.2)).getD 0
    let (n, mark) ← d.node t
    return ⟨n, mark, t, some m, some (place + 1)⟩
  | n => return { node := n, mark := m, place }

/-- The place behind the node that begins at `place`, within `open` collections. -/
def skip (d : Document) : Nat → Nat → Nat → Read Nat
  | 0, _, place => pure place
  | fuel + 1, depth, place => do
    let (n, _) ← d.node place
    match n with
    | .sequenceStart _ | .mappingStart _ => d.skip fuel (depth + 1) (place + 1)
    | .sequenceEnd | .mappingEnd =>
      if depth ≤ 1 then return place + 1 else d.skip fuel (depth - 1) (place + 1)
    | _ => if depth = 0 then return place + 1 else d.skip fuel depth (place + 1)

/-- The place behind the node that begins at `place`. -/
def behind (d : Document) (place : Nat) : Read Nat := d.skip (d.nodes.size + 1) 0 place

end Document

/-- Is the text a spelling of null? -/
def isNull (s : String) : Bool := s = "null" || s = "Null" || s = "NULL" || s = "~"

/-- The truth value that the text spells. -/
def bool? (s : String) : Option Bool :=
  if s = "true" || s = "True" || s = "TRUE" then some true
  else if s = "false" || s = "False" || s = "FALSE" then some false
  else none

/-- Is the text a zero in front of more digits, which makes it no number? -/
def isPaddedNumber (s : List Char) : Bool :=
  let s := match s with
    | '+' :: rest | '-' :: rest => rest
    | rest => rest
  match s with
  | '0' :: d :: rest => (d :: rest).all Char.isDigit
  | _ => false

/-- The whole number that the text writes, to the base that its first two characters name. -/
def natural? (s : List Char) : Option Nat :=
  match s with
  | '0' :: 'x' :: rest => Decimal.natInBase? 16 rest
  | '0' :: 'o' :: rest => Decimal.natInBase? 8 rest
  | '0' :: 'b' :: rest => Decimal.natInBase? 2 rest
  | rest => Decimal.natInBase? 10 rest

/-- The integer that the text writes, if it is one of 128 bits. -/
def int? (s : List Char) : Option Int :=
  if isPaddedNumber s then none
  else
    match s with
    | '-' :: rest =>
      (natural? rest).bind fun n => if n ≤ Nat.pow 2 127 then some (-(n : Int)) else none
    | '+' :: rest => (natural? rest).bind fun n => if n < Nat.pow 2 128 then some n else none
    | rest => (natural? rest).bind fun n => if n < Nat.pow 2 128 then some n else none

/-- What an integer is reported as. -/
def foundInt (n : Int) : Found :=
  if Int64.minValue.toInt ≤ n && n < (UInt64.size : Int) then .int n else .wideInt n

/-- The finite double that the text writes. -/
def finite? (s : List Char) : Option Float :=
  ((Decimal.Written.ofChars? s).map Decimal.Written.toFloat).filter Float.isFinite

/-- The double that the text writes. -/
def double? (s : String) : Option UInt64 :=
  let positive := (s.dropPrefix? "+").map (·.toString) |>.getD s
  if s.startsWith "+" && (positive.startsWith "+" || positive.startsWith "-") then none
  else if positive = ".inf" || positive = ".Inf" || positive = ".INF" then
    some (1.0 / 0.0 : Float).toBits
  else if s = "-.inf" || s = "-.Inf" || s = "-.INF" then some (-1.0 / 0.0 : Float).toBits
  else if s = ".nan" || s = ".NaN" || s = ".NAN" then some 0x7FF8000000000000
  else (finite? positive.toList).map Float.toBits

/-- What a plain scalar without a tag is. -/
def plainFound (s : String) : Found :=
  if s = "" || isNull s then .unit
  else match bool? s with
    | some b => .bool b
    | none =>
      match int? s.toList with
      | some n => foundInt n
      | none =>
        match if isPaddedNumber s.toList then none else double? s with
        | some bits => .double bits
        | none => .string s

/-- The tag of a type that every YAML document knows. -/
def coreTag (name : String) : String := "tag:yaml.org,2002:" ++ name

/-- The mismatch of a scalar that stands where something else is wanted. -/
def scalarMismatch (tag : Option String) (s : String) (style : Style) (wanted : String) :
    Mismatch :=
  let plain : Mismatch := .wrongType (plainFound s) wanted
  let text : Mismatch := .wrongType (.string s) wanted
  match tag with
  | none => if style = .plain then plain else text
  | some t =>
    if t = coreTag "bool" then
      match bool? s with
      | some b => .wrongType (.bool b) wanted
      | none => .wrongValue (.string s) "a boolean"
    else if t = coreTag "int" then
      match int? s.toList with
      | some n => .wrongType (foundInt n) wanted
      | none => .wrongValue (.string s) "an integer"
    else if t = coreTag "float" then
      match double? s with
      | some bits => .wrongType (.double bits) wanted
      | none => .wrongValue (.string s) "a float"
    else if t = coreTag "null" then
      if isNull s then .wrongType .unit wanted else .wrongValue (.string s) "null"
    else if t.startsWith "!" && style = .plain then plain
    else text

/-- Fails because the node is not what is wanted. -/
def unfit {α : Type} (n : Node) (wanted : String) : Read α :=
  match n with
  | .scalar tag s style => mismatch (scalarMismatch tag s style wanted)
  | .sequenceStart _ => mismatch (.wrongType .sequence wanted)
  | .mappingStart _ => mismatch (.wrongType .map wanted)
  | _ => throw .endOfStream

/-- Is the node a scalar that nobody wrote? -/
def isAbsent : Node → Bool
  | .scalar _ s style => s = "" && style = .plain
  | .nothing => true
  | _ => false

/-- Reads a text: any scalar, whatever it spells. -/
def readText (d : Document) (wanted path : String) (place : Nat) : Read (String × Nat) := do
  let t ← d.target place
  located t.mark path do
    match t.node with
    | .scalar _ s _ => return (s, t.behind.getD (t.place + 1))
    | n => unfit n wanted

/-- Reads a text that may lack: a plain null or a scalar that nobody wrote is none. -/
def readOption (d : Document) (path : String) (place : Nat) : Read (Option String × Nat) := do
  let t ← d.target place
  let behind := t.behind.getD (t.place + 1)
  let text : Read (Option String × Nat) := do
    let (s, _) ← readText d "a string" path t.place
    return (some s, behind)
  match t.node with
  | .scalar tag s style =>
    if style ≠ .plain then text
    else match tag with
      | some t =>
        if t ≠ coreTag "null" then text
        else if isNull s then return (none, behind)
        else mismatch (.wrongValue (.string s) "null")
      | none => if s = "" || isNull s then return (none, behind) else text
  | .sequenceStart _ | .mappingStart _ => text
  | _ => return (none, behind)

/-- The name that a tag with one mark gives. -/
def tagName? (tag : Option String) : Option String :=
  tag.bind fun t => match t.toList with
    | ['!'] => some "!"
    | '!' :: name => some (String.ofList name)
    | _ => none

/-- The variant with the given name. -/
def variant {α : Type} (variants : List (String × α)) (name : String) : Read α :=
  match variants.find? (·.1 == name) with
  | some (_, v) => pure v
  | none => mismatch (.unknownVariant name (variants.map (·.1)))

/-- Reads the name of a variant: a scalar, or a tag on a scalar that is null. -/
def readVariant {α : Type} (d : Document) (variants : List (String × α)) (path : String)
    (place : Nat) : Read (α × Nat) := do
  let t ← d.target place
  -- The name that a tag gives is reported without a place, or with that of the alias that leads
  -- to it.
  let named (name : String) : Read α :=
    match t.aliasMark with
    | some mark => located mark path (variant variants name)
    | none => variant variants name
  let tagged (name : String) : Read (α × Nat) := do
    let v ← named name
    located t.mark path do
      match t.node with
      | .scalar _ s style =>
        if style = .plain && (s = "" || isNull s) then return (v, t.behind.getD (t.place + 1))
        else mismatch (.wrongValue (.string s) "null")
      | n => unfit n "unit"
  match t.node with
  | .scalar tag s _ =>
    match tagName? tag with
    | some name => tagged name
    | none => located t.mark path do
      let v ← variant variants s
      return (v, t.behind.getD (t.place + 1))
  | .sequenceStart tag | .mappingStart tag =>
    match tagName? tag with
    | some name => tagged name
    | none => located t.mark path (unfit t.node "a YAML tag starting with '!'")
  | _ => throw .endOfStream

/-- Reads the items of a list up to its end. -/
def readItems {α : Type} (d : Document) (item : String → Nat → Read (α × Nat)) (path : String) :
    Nat → Nat → Nat → Read (List α × Nat)
  | 0, _, place => pure ([], place)
  | fuel + 1, i, place => do
    match (← d.node place).1 with
    | .sequenceEnd => return ([], place + 1)
    | _ =>
      let (x, place) ← item (itemPath path i) place
      let (xs, place) ← readItems d item path fuel (i + 1) place
      return (x :: xs, place)

/-- Reads a list; a scalar that nobody wrote is the empty list. -/
def readList {α : Type} (d : Document) (item : String → Nat → Read (α × Nat)) (path : String)
    (place : Nat) : Read (List α × Nat) := do
  let t ← d.target place
  located t.mark path do
    match t.node with
    | .sequenceStart _ =>
      let (xs, behind) ← readItems d item path (d.nodes.size + 1) 0 (t.place + 1)
      return (xs, t.behind.getD behind)
    | n => if isAbsent n then return ([], t.behind.getD (t.place + 1)) else unfit n "a sequence"

/-- How the field of a record with the given name is read into what was read of the record; none for
names that the record does not know. -/
abbrev Fields (ρ : Type) := String → Option (ρ → String → Nat → Read (ρ × Nat))

/-- Reads the fields of a record up to its end. -/
def readFields {ρ : Type} (d : Document) (fields : Fields ρ) (path : String) :
    Nat → ρ → Nat → Read (ρ × Nat)
  | 0, r, place => pure (r, place)
  | fuel + 1, r, place => do
    match (← d.node place).1 with
    | .mappingEnd => return (r, place + 1)
    | n =>
      let (key, place) ← readText d "field identifier" path place
      let valuePath := match n with
        | .scalar _ s _ => fieldPath path s
        | _ => fieldPath path "?"
      match fields key with
      | some read =>
        let (r, place) ← read r valuePath place
        readFields d fields path fuel r place
      | none => readFields d fields path fuel r (← d.behind place)

/-- Reads a record: its fields in the order of the text, then `finish` on what they gave. -/
def readRecord {ρ α : Type} (d : Document) (wanted : String) (start : ρ) (fields : Fields ρ)
    (finish : ρ → Except Mismatch α) (path : String) (place : Nat) : Read (α × Nat) := do
  let t ← d.target place
  located t.mark path do
    let done (r : ρ) (behind : Nat) : Read (α × Nat) :=
      match finish r with
      | .ok a => return (a, t.behind.getD behind)
      | .error m => mismatch m
    match t.node with
    | .mappingStart _ =>
      let (r, behind) ← readFields d fields path (d.nodes.size + 1) start (t.place + 1)
      done r behind
    | n => if isAbsent n then done start (t.place + 1) else unfit n wanted

/-- A field that may occur once. -/
def once {ρ α : Type} (name : String) (get : ρ → Option α) (set : ρ → α → ρ)
    (read : String → Nat → Read (α × Nat)) (r : ρ) (path : String) (place : Nat) :
    Read (ρ × Nat) :=
  match get r with
  | some _ => mismatch (.duplicateField name)
  | none => do
    let (a, place) ← read path place
    return (set r a, place)

/-- The value of a field that has to be there. -/
def required {α : Type} (name : String) : Option α → Except Mismatch α
  | some a => .ok a
  | none => .error (.missingField name)

/-- Reads the whole text as one document that `read` understands. -/
def readDocument {α : Type} (read : Document → Nat → Read (α × Nat)) (text : String) :
    Except Fault α :=
  let d := Document.ofText text
  match (read d 0).run 0 with
  | .error f => .error f
  | .ok ((a, _), _) =>
    match d.cut with
    | some c => .error (.cut c)
    | none => if d.more then .error .severalDocuments else .ok a

/-- The words for a place, none for the start of the text. -/
def atMark (m : Mark) : String :=
  if m.line = 0 && m.column = 0 then ""
  else " at line " ++ toString (m.line + 1) ++ " column " ++ toString (m.column + 1)

/-- The sentence for a fault. -/
def Fault.message : Fault → String
  | .mismatch m none => m.message
  | .mismatch m (some (mark, path)) =>
    (if path = "" then "" else path ++ ": ") ++ m.message ++ atMark mark
  | .cut (.syntaxError e) => e.problem ++ atMark e.mark
  | .cut (.unknownAnchor m) => "unknown anchor" ++ atMark m
  | .endOfStream => "EOF while parsing a value"
  | .tooManyAliases => "repetition limit exceeded"
  | .severalDocuments =>
    "deserializing from YAML containing more than one document is not supported"

/-- Does the fault lie in the data rather than in the text? -/
def Fault.isMismatch : Fault → Bool
  | .mismatch .. => true
  | _ => false

end Conformance.Yaml
