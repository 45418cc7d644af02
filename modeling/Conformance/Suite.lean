import Conformance.Group

/-!
# Suites of test cases

A test case is a request with the response that a conforming host gives. A suite holds the cases of
one group in the order in which they run, for a case may depend on what those before it left.
-/

namespace Conformance

/-- One request and the response it is to get. -/
structure TestCase where
  /-- The name that selects the case. -/
  name : String
  /-- The name under which the case is reported. -/
  id : String
  description : String
  /-- Requests sent before the request; their responses decide nothing. -/
  setup : List String
  request : String
  expected : String
  /-- A sentence put behind the message of a pass. -/
  passDetail : Option String
  deriving Repr, DecidableEq, Inhabited

/-- Is the text the case's name or its id? -/
def TestCase.answersTo (c : TestCase) (s : String) : Bool := c.name == s || c.id == s

/-- The cases of one group. -/
structure Suite where
  group : Group
  /-- What the host calls the plugin. -/
  callsign : Option String
  description : String
  cases : List TestCase
  deriving Repr, DecidableEq, Inhabited

end Conformance
