import Conformance.Json
import Conformance.Decimal.Shortest
import Conformance.Text.Quoted

/-!
# Writing JSON

`Json.pretty` writes a document over several lines, two blanks to a level, and `Json.compact` on one
line without blanks. An empty array or object takes no line of its own, and a string escapes only
quotes, backslashes and controls.
-/

namespace Conformance.Json

open Conformance.Text (hexDigit)

/-- How one character is written in a string. -/
def escapeChar (c : Char) : List Char :=
  if c = '"' then ['\\', '"']
  else if c = '\\' then ['\\', '\\']
  else if c = '\x08' then ['\\', 'b']
  else if c = '\x0c' then ['\\', 'f']
  else if c = '\n' then ['\\', 'n']
  else if c = '\r' then ['\\', 'r']
  else if c = '\t' then ['\\', 't']
  else if c.toNat < 0x20 then
    ['\\', 'u', '0', '0', hexDigit (c.toNat / 16), hexDigit (c.toNat % 16)]
  else [c]

/-- A string between its quotes. -/
def printString (s : String) : List Char := '"' :: s.toList.flatMap escapeChar ++ ['"']

/-- The break before an item at a level. -/
def newline (level : Nat) : List Char := '\n' :: List.replicate (2 * level) ' '

/-- Pieces at a level between two brackets, with commas. -/
def enclose (left right : Char) (level : Nat) : List (List Char) → List Char
  | [] => [left, right]
  | p :: ps =>
    left :: newline (level + 1) ++ p ++ ps.flatMap (fun q => ',' :: newline (level + 1) ++ q)
      ++ newline level ++ [right]

mutual

/-- Writes a value that stands at a level. -/
def print (level : Nat) : Json → List Char
  | .null => "null".toList
  | .bool b => (if b then "true" else "false").toList
  | .int n => (toString n).toList
  | .double bits => (Decimal.positional bits).toList
  | .string s => printString s
  | .array items => enclose '[' ']' level (printItems (level + 1) items)
  | .object members => enclose '\x7b' '\x7d' level (printMembers (level + 1) members)

/-- Writes the items of an array. -/
def printItems (level : Nat) : List Json → List (List Char)
  | [] => []
  | v :: rest => print level v :: printItems level rest

/-- Writes the members of an object. -/
def printMembers (level : Nat) : List (String × Json) → List (List Char)
  | [] => []
  | (k, v) :: rest =>
    (printString k ++ [':', ' '] ++ print level v) :: printMembers level rest

end

/-- The text of a document over several lines. -/
def pretty (v : Json) : String := String.ofList (v.print 0)

mutual

/-- Writes a value without blanks. -/
def printCompact : Json → List Char
  | .null => "null".toList
  | .bool b => (if b then "true" else "false").toList
  | .int n => (toString n).toList
  | .double bits => (Decimal.positional bits).toList
  | .string s => printString s
  | .array items => '[' :: [','].intercalate (printCompactItems items) ++ [']']
  | .object members => '\x7b' :: [','].intercalate (printCompactMembers members) ++ ['\x7d']

/-- Writes the items of an array without blanks. -/
def printCompactItems : List Json → List (List Char)
  | [] => []
  | v :: rest => printCompact v :: printCompactItems rest

/-- Writes the members of an object without blanks. -/
def printCompactMembers : List (String × Json) → List (List Char)
  | [] => []
  | (k, v) :: rest => (printString k ++ ':' :: printCompact v) :: printCompactMembers rest

end

/-- The text of a document on one line. -/
def compact (v : Json) : String := String.ofList v.printCompact

end Conformance.Json
