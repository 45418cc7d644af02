/-!
# Comma-separated records

A record is a list of fields with commas between them and a line feed behind them. A field that
holds a comma, a quote or a line break stands between quotes, and each quote in it is written twice.
`Csv.parse` also reads records that end in a carriage return and a line feed, fields in quotes that
need none, and a last record without an end; it refuses nothing.
-/

namespace Conformance.Csv

/-- Does the field need quotes? -/
def needsQuotes (c : Char) : Bool := c = ',' || c = '"' || c = '\n' || c = '\r'

/-- Each quote twice. -/
def doubleQuotes (s : List Char) : List Char :=
  s.flatMap fun c => if c = '"' then ['"', '"'] else [c]

/-- A field as it is written. -/
def field (s : String) : List Char :=
  if s.toList.any needsQuotes then '"' :: doubleQuotes s.toList ++ ['"'] else s.toList

/-- A record as it is written, with its end. -/
def line (fields : List String) : String :=
  String.ofList ([','].intercalate (fields.map field) ++ ['\n'])

/-- Records, with fields as lists of characters. -/
abbrev Records := List (List (List Char))

/-- Reads on within a field. `quoted` tells whether a quote is open, `text` is the field so far,
from its end to its start, and `fields` are the complete fields of the record. A record that the
text leaves without an end counts if it has a field or a character. -/
def parseFrom (quoted : Bool) (text : List Char) (fields : List (List Char)) : List Char → Records
  | [] => if text.isEmpty && fields.isEmpty then [] else [fields ++ [text.reverse]]
  | '"' :: rest =>
    if quoted then
      match rest with
      | '"' :: rest => parseFrom true ('"' :: text) fields rest
      | rest => parseFrom false text fields rest
    else parseFrom true text fields rest
  | c :: rest =>
    if quoted then parseFrom true (c :: text) fields rest
    else if c = ',' then parseFrom false [] (fields ++ [text.reverse]) rest
    else if c = '\n' then (fields ++ [text.reverse]) :: parseFrom false [] [] rest
    else if c = '\r' && rest.head? = some '\n' then parseFrom false text fields rest
    else parseFrom false (c :: text) fields rest

/-- The records that a text writes. -/
def parse (s : String) : List (List String) :=
  (parseFrom false [] [] s.toList).map (·.map String.ofList)

end Conformance.Csv
