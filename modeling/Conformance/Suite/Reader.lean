import Conformance.Suite
import Conformance.Yaml.Reader

/-!
# Suites in YAML

`Suite.read` reads a suite from the text of a YAML document. A suite needs its group and its cases,
a case its name, id, request and expected response; fields with other names are passed over.
-/

namespace Conformance

open Yaml

/-- What was read of a case. -/
structure CaseDraft where
  name : Option String := none
  id : Option String := none
  description : Option String := none
  setup : Option (List String) := none
  request : Option String := none
  expected : Option String := none
  passDetail : Option (Option String) := none

/-- The case, once its fields were read. -/
def CaseDraft.finish (r : CaseDraft) : Except Mismatch TestCase := do
  return {
    name := ← required "name" r.name
    id := ← required "id" r.id
    description := r.description.getD ""
    setup := r.setup.getD []
    request := ← required "request" r.request
    expected := ← required "expected" r.expected
    passDetail := r.passDetail.getD none }

/-- The fields of a case. -/
def CaseDraft.fields (d : Document) : Fields CaseDraft
  | "name" => some (once "name" (·.name) ({ · with name := some · }) (readText d "a string"))
  | "id" => some (once "id" (·.id) ({ · with id := some · }) (readText d "a string"))
  | "description" =>
    some (once "description" (·.description) ({ · with description := some · })
      (readText d "a string"))
  | "setup" =>
    some (once "setup" (·.setup) ({ · with setup := some · }) (readList d (readText d "a string")))
  | "request" =>
    some (once "request" (·.request) ({ · with request := some · }) (readText d "a string"))
  | "expected" =>
    some (once "expected" (·.expected) ({ · with expected := some · }) (readText d "a string"))
  | "pass_detail" =>
    some (once "pass_detail" (·.passDetail) ({ · with passDetail := some · }) (readOption d))
  | _ => none

/-- Reads a case. -/
def TestCase.readNode (d : Document) : String → Nat → Yaml.Read (TestCase × Nat) :=
  readRecord d "struct TestCase" {} (CaseDraft.fields d) CaseDraft.finish

/-- What was read of a suite. -/
structure SuiteDraft where
  group : Option Group := none
  callsign : Option (Option String) := none
  description : Option String := none
  cases : Option (List TestCase) := none

/-- The suite, once its fields were read. -/
def SuiteDraft.finish (r : SuiteDraft) : Except Mismatch Suite := do
  return {
    group := ← required "group" r.group
    callsign := r.callsign.getD none
    description := r.description.getD ""
    cases := ← required "cases" r.cases }

/-- The fields of a suite. -/
def SuiteDraft.fields (d : Document) : Fields SuiteDraft
  | "group" =>
    some (once "group" (·.group) ({ · with group := some · })
      (readVariant d (Group.all.map fun g => (g.name, g))))
  | "callsign" =>
    some (once "callsign" (·.callsign) ({ · with callsign := some · }) (readOption d))
  | "description" =>
    some (once "description" (·.description) ({ · with description := some · })
      (readText d "a string"))
  | "cases" =>
    some (once "cases" (·.cases) ({ · with cases := some · }) (readList d (TestCase.readNode d)))
  | _ => none

/-- Reads a suite. -/
def Suite.readNode (d : Document) : Nat → Yaml.Read (Suite × Nat) :=
  readRecord d "struct Suite" {} (SuiteDraft.fields d) SuiteDraft.finish ""

/-- The suite that a text writes. -/
def Suite.read (text : String) : Except Yaml.Fault Suite := readDocument Suite.readNode text

end Conformance
