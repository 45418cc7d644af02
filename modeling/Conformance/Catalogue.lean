import Conformance.Failure
import Conformance.Suite

/-!
# Catalogue

The suites that the runner can execute, in the order in which they were stored. Names and ids share
one space of keys: `Catalogue.check` accepts a catalogue when no two of its cases share a key, so a
key selects one case at most.
-/

namespace Conformance

/-- What a case answers to: its name, and its id if that is another text. -/
def TestCase.keys (c : TestCase) : List String :=
  if c.id = c.name then [c.name] else [c.name, c.id]

theorem TestCase.mem_keys (c : TestCase) (s : String) : s ∈ c.keys ↔ c.answersTo s = true := by
  simp only [answersTo, Bool.or_eq_true, beq_iff_eq, eq_comm (b := s)]
  unfold keys
  split
  next h => simp [h]
  next => simp

/-- The stored suites. -/
structure Catalogue where
  suites : List Suite
  deriving Repr, DecidableEq

namespace Catalogue

/-- All stored cases, suite by suite. -/
def cases (k : Catalogue) : List TestCase := k.suites.flatMap (·.cases)

/-- The keys that the first of the cases shares which has one in common with a case before it or
with those that are taken. -/
def clashesFrom (taken : List String) : List TestCase → List String
  | [] => []
  | c :: rest =>
    match c.keys.filter taken.contains with
    | [] => clashesFrom (taken ++ c.keys) rest
    | shared => shared

/-- The keys that the first stored case shares which has one in common with a case before it. Any of
them tells the clash. -/
def clashes (k : Catalogue) : List String := clashesFrom [] k.cases

/-- The key that is reported of a clash, a name rather than an id. -/
def clash? (k : Catalogue) : Option String := k.clashes.head?

/-- Refuses a catalogue in which two cases share a key. -/
def check (k : Catalogue) : Except Failure Unit :=
  match k.clash? with
  | some key => .error (.duplicateCase key)
  | none => .ok ()

/-- The catalogue of the given suites. -/
def ofSuites (suites : List Suite) : Except Failure Catalogue := do
  check ⟨suites⟩
  return ⟨suites⟩

/-- The first stored suite of a group that has cases. -/
def suite? (k : Catalogue) (g : Group) : Option Suite :=
  k.suites.find? fun s => s.group = g && !s.cases.isEmpty

/-- The cases that a run of the group executes. -/
def casesOf (k : Catalogue) (g : Group) : List TestCase :=
  match k.suite? g with
  | some s => s.cases
  | none => []

/-- The stored cases with their groups. -/
def entries (k : Catalogue) : List (Group × TestCase) :=
  k.suites.flatMap fun s => s.cases.map fun c => (s.group, c)

/-- The first stored case that answers to a key, and its group. -/
def find? (k : Catalogue) (key : String) : Option (Group × TestCase) :=
  k.entries.find? fun e => e.2.answersTo key

/-- The groups that have cases, in the order of a full run. -/
def implemented (k : Catalogue) : List Group := Group.all.filter fun g => (k.suite? g).isSome

/-- Puts a suite in the place of the first of its group, or behind all. -/
def insertSuite (s : Suite) : List Suite → List Suite
  | [] => [s]
  | r :: rest => if r.group = s.group then s :: rest else r :: insertSuite s rest

/-- The catalogue with a further suite, which replaces the first stored one of its group. -/
def insert (k : Catalogue) (s : Suite) : Catalogue := ⟨insertSuite s k.suites⟩

/-- The catalogue with further suites, inserted one after the other. -/
def insertAll (k : Catalogue) (suites : List Suite) : Catalogue := suites.foldl insert k

/-- Is a suite of the group stored? -/
def has (k : Catalogue) (g : Group) : Bool := k.suites.any (·.group = g)

/-- The groups of those of the further suites that replace a stored one. -/
def replacedBy (k : Catalogue) : List Suite → List Group
  | [] => []
  | s :: rest =>
    (if k.has s.group then [s.group] else []) ++ replacedBy (k.insert s) rest

end Catalogue

end Conformance
