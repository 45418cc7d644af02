import Conformance.Failure
import Conformance.Toml.Reader

/-!
# Configurations in TOML

`Config.ofText` reads a configuration from the text of a TOML document, and `Config.load` from a
file, which need not be there. A key that the document lacks keeps its default, keys with other
names are passed over, and of several mismatches the first in the document counts.
-/

namespace Conformance

open Toml (Value Entries)

/-- What a value is, in a sentence. -/
def Toml.Value.found : Value → Found
  | .string s => .string s
  | .integer n => .int n
  | .float bits => .double bits
  | .boolean b => .bool b
  | .datetime => .map
  | .array _ | .tables _ => .sequence
  | .inlineTable .. | .table .. => .map

/-- Why a value is not what a setting wants. -/
inductive SettingFault where
  | mismatch (m : Mismatch)
  | wanted (problem : String)
  deriving Repr, DecidableEq

/-- A fault, and its place if it lies within the value. -/
abbrev PlacedFault := Option Nat × SettingFault

/-- The fault at a place of the text. -/
def SettingFault.at (text : String) (offset : Nat) (f : SettingFault) : ConfigFault :=
  let (line, column) := Toml.place text offset
  match f with
  | .mismatch m => .mismatch m line column
  | .wanted p => .wanted p line column

/-- A value that has to be a text. -/
def textValue (wanted : String) (v : Value) : Except PlacedFault String :=
  match v with
  | .string s => .ok s
  | v => .error (none, .mismatch (.wrongType v.found wanted))

/-- A value that has to be a whole number of sixty-four bits. -/
def wordValue (v : Value) : Except PlacedFault Nat :=
  match v with
  | .integer n =>
    if 0 ≤ n then .ok n.toNat else .error (none, .mismatch (.wrongValue (.int n) "u64"))
  | v => .error (none, .mismatch (.wrongType v.found "u64"))

/-- Does the value hold nothing? -/
def isEmptyValue : Value → Option Bool
  | .array items | .tables items => some items.isEmpty
  | .inlineTable _ es | .table _ es => some es.isEmpty
  | _ => none

/-- A value that has to name one of `values`: by a text, or as the one key of a table that gives it
nothing. -/
def namedValue {α : Type} (values : List (String × α)) (v : Value) : Except PlacedFault α :=
  let named (place : Option Nat) (name : String) : Except PlacedFault α :=
    match values.find? (·.1 == name) with
    | some (_, a) => .ok a
    | none => .error (place, .mismatch (.unknownVariant name (values.map (·.1))))
  match v with
  | .string name => named none name
  | .inlineTable _ es | .table _ es =>
    match es with
    | [] => .error (none, .wanted "wanted exactly 1 element, found 0 elements")
    | [(name, place, inner)] => do
      let a ← named (some place.key) name
      match isEmptyValue inner with
      | some true => return a
      | some false => throw (place.value, .wanted "expected empty table")
      | none => throw (place.value, .wanted "expected table")
    | _ => .error (none, .wanted "wanted exactly 1 element, more than 1 element")
  | _ => .error (none, .wanted "wanted string or table")

namespace Config

/-- The configuration with the setting of a key. -/
def set (c : Config) (key : String) (v : Value) : Except PlacedFault Config :=
  match key with
  | "build_name" => (textValue "a string" v).map ({ c with buildName := · })
  | "endpoint" => (textValue "a string" v).map ({ c with endpoint := · })
  | "transport" => (namedValue Channel.values v).map ({ c with channel := · })
  | "curl_binary" => (textValue "path string" v).map ({ c with curlBinary := · })
  | "timeout_secs" => (wordValue v).map ({ c with timeout := some · })
  | "match_mode" => (namedValue MatchMode.values v).map ({ c with matchMode := · })
  | "multi_group" => (namedValue GroupPolicy.values v).map ({ c with groupPolicy := · })
  | "output_dir" => (textValue "path string" v).map ({ c with outputDir := · })
  | "csv_file" => (textValue "a string" v).map ({ c with csvFile := · })
  | "suites_dir" => (textValue "path string" v).map ({ c with suitesDir := some · })
  | _ => .ok c

/-- The configuration with the settings of all entries. -/
def setAll (text : String) : Entries → Config → Except ConfigFault Config
  | [], c => .ok c
  | (key, place, v) :: rest, c =>
    match c.set key v with
    | .ok c => setAll text rest c
    | .error (within, f) => .error (f.at text (within.getD place.best))

/-- The configuration that a text writes. -/
def ofText (text : String) : Except ConfigFault Config :=
  match Toml.read text with
  | .ok es => setAll text es {}
  | .error e =>
    let (line, column) := Toml.place text (text.length - e.rest.length)
    .error (.syntaxError e.problem line column)

/-- The configuration of a file, or the default one if there is no such file. -/
def load (t : FileTree) (path : String) : Except Failure Config :=
  if t.exists? path then do
    let text ← (t.readText path).mapError .file
    let c ← (ofText text).mapError .configText
    c.check.mapError .config
    return c
  else .ok {}

end Config

end Conformance
