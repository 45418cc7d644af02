/-!
# TOML values

A TOML document as a tree of tables. A table remembers how it came about, for that decides which
later lines may add to it: `Origin.implied` stands for the tables that a longer header names on its
way, `Origin.dotted` for those that a dotted key names.
-/

namespace Conformance.Toml

/-- How a table came about. -/
inductive Origin where
  /-- By a header of its own, or as the document itself. -/
  | header
  /-- By the header of a table within it. -/
  | implied
  /-- By a dotted key. -/
  | dotted
  deriving Repr, DecidableEq, Inhabited

/-- Where an entry stands: its key, and its value unless that came about piece by piece. Places
count the characters in front. -/
structure Place where
  key : Nat
  value : Option Nat
  deriving Repr, DecidableEq, Inhabited

/-- The place of the value, or else that of its key. -/
def Place.best (p : Place) : Nat := p.value.getD p.key

/-- A value; entries stand in the order of the text, each with its place. -/
inductive Value where
  | string (s : String)
  | integer (n : Int)
  | float (bits : UInt64)
  | boolean (b : Bool)
  | datetime
  | array (items : List Value)
  /-- A table between braces. -/
  | inlineTable (origin : Origin) (entries : List (String × Place × Value))
  | table (origin : Origin) (entries : List (String × Place × Value))
  /-- The tables of headers in double brackets, the last one in front. -/
  | tables (items : List Value)
  deriving Repr, Inhabited

/-- Named values, each with its place. -/
abbrev Entries := List (String × Place × Value)

/-- The entry with a name. -/
def Entries.find? (es : Entries) (name : String) : Option (Place × Value) :=
  (List.find? (·.1 == name) es).map (·.2)

/-- Puts a value in the place of the entry with its name, or behind all entries. -/
def Entries.put (es : Entries) (name : String) (place : Place) (v : Value) : Entries :=
  if es.any (·.1 == name) then
    es.map fun e => if e.1 == name then (name, place, v) else e
  else es ++ [(name, place, v)]

end Conformance.Toml
