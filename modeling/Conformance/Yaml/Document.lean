import Conformance.Yaml.Event

/-!
# YAML documents

The first document of a text: its events, with the aliases tied to the events of their anchors, and
the error that cuts the events short, if any. A text may hold a second document; `Document.more`
says so.
-/

namespace Conformance.Yaml

/-- One event of a document. -/
inductive Node where
  /-- Stands for the node that begins at another place, given by the anchor's number. -/
  | alias (anchor : Nat)
  | scalar (tag : Option String) (text : String) (style : Style)
  | sequenceStart (tag : Option String)
  | sequenceEnd
  | mappingStart (tag : Option String)
  | mappingEnd
  /-- Stands for a stream without a document. -/
  | nothing
  deriving Repr, DecidableEq, Inhabited

/-- Why the events of a document break off. -/
inductive Cut where
  | syntaxError (e : SyntaxError)
  | unknownAnchor (m : Mark)
  deriving Repr

/-- The events of a document. -/
structure Document where
  nodes : Array (Node × Mark) := #[]
  /-- The place among the events where the node of an anchor begins, by the anchor's number; the
  entry in front counts. -/
  anchors : List (Nat × Nat) := []
  cut : Option Cut := none
  /-- Does something follow the document? -/
  more : Bool := false

/-- A document in the making, with the number of each anchor's name. -/
structure Builder where
  document : Document := {}
  names : List (String × Nat) := []

/-- Gives a name its anchor; the anchor's number is how many names there were. -/
def Builder.name (b : Builder) : Option String → Builder
  | none => b
  | some a =>
    let id := b.names.length
    { document := { b.document with anchors := (id, b.document.nodes.size) :: b.document.anchors }
      names := (a, id) :: b.names.filter (·.1 ≠ a) }

/-- Appends an event. -/
def Builder.push (b : Builder) (n : Node) (m : Mark) : Builder :=
  { b with document := { b.document with nodes := b.document.nodes.push (n, m) } }

/-- Does something follow the document that ended before `p`? -/
def followed (p : Parser) (fuel : Nat) : Bool :=
  match p.next fuel with
  | .ok (.streamEnd, _) => false
  | _ => true

/-- Collects the events of the first document. -/
def Builder.collect (fuel : Nat) : Nat → Builder → Parser → Document
  | 0, b, _ => b.document
  | left + 1, b, p =>
    match p.next fuel with
    | .error e => { b.document with cut := some (.syntaxError e) }
    | .ok (e, m, p) =>
      match e with
      | .documentStart => collect fuel left b p
      | .documentEnd => { b.document with more := followed p fuel }
      | .streamEnd => if b.document.nodes.isEmpty then (b.push .nothing m).document else b.document
      | .alias a =>
        match b.names.find? (·.1 = a) with
        | some (_, id) => collect fuel left (b.push (.alias id) m) p
        | none => { b.document with cut := some (.unknownAnchor m) }
      | .scalar a t s k => collect fuel left ((b.name a).push (.scalar t s k) m) p
      | .sequenceStart a t => collect fuel left ((b.name a).push (.sequenceStart t) m) p
      | .sequenceEnd => collect fuel left (b.push .sequenceEnd m) p
      | .mappingStart a t => collect fuel left ((b.name a).push (.mappingStart t) m) p
      | .mappingEnd => collect fuel left (b.push .mappingEnd m) p

/-- May the character stand in a YAML text? -/
def isAllowed (c : Char) : Bool :=
  let n := c.toNat
  n = 0x09 || n = 0x0A || n = 0x0D || (0x20 ≤ n && n ≤ 0x7E) || n = 0x85
    || (0xA0 ≤ n && n ≤ 0xFFFD) || 0x10000 ≤ n

/-- The first document of a text. -/
def Document.ofText (text : String) : Document :=
  let s := text.toList
  if s.all isAllowed then
    Builder.collect 16 (8 * s.length + 16) {} (.ofText s)
  else { cut := some (.syntaxError ⟨"control characters are not allowed", ⟨0, 0, 0⟩⟩) }

end Conformance.Yaml
