import Conformance.Catalogue
import Conformance.Log
import Conformance.Suite.Reader

/-!
# Loading suites

`Catalogue.loadDirectory` adds the suites that a directory holds at any depth. It reads them in the
order of a walk in which each directory comes before what it holds and names rise; the first that
cannot be read, or a directory on the way that cannot be entered, ends the loading, and what was
read before it stays in the catalogue.
-/

namespace Conformance

/-- Is the path, by its extension, that of a suite? -/
def Suite.isPath (path : String) : Bool :=
  match Path.extension? path with
  | some e => e == "yaml" || e == "yml"
  | none => false

/-- Reads the suite at a path. -/
def Suite.load (t : FileTree) (path : String) : Except Failure Suite := do
  let text ← (t.readText path).mapError .file
  (Suite.read text).mapError (.suite path)

/-- Reads the suite that a step of a walk comes to. -/
def Suite.loadStep (t : FileTree) (step : Except FileError String) : Except Failure Suite := do
  Suite.load t (← step.mapError .file)

/-- Reads the suites that the steps come to, up to the first that cannot be read. -/
def Suite.loadAll (t : FileTree) : List (Except FileError String) → List Suite × Option Failure
  | [] => ([], none)
  | step :: rest =>
    match Suite.loadStep t step with
    | .error e => ([], some e)
    | .ok s =>
      let (suites, failure) := loadAll t rest
      (s :: suites, failure)

/-- What came of loading a directory. -/
structure Loading where
  /-- How many suites were read, unless something went wrong. -/
  result : Except Failure Nat
  /-- The catalogue afterwards, also if something went wrong. -/
  catalogue : Catalogue
  /-- The groups whose stored suite was replaced, one for each replacement. -/
  replaced : List Group

/-- Does a step of a walk come to a suite, or to nothing? -/
def Suite.isStep : Except FileError String → Bool
  | .ok path => Suite.isPath path
  | .error _ => true

/-- The steps of a walk through a directory that count when its suites are loaded. -/
def suiteSteps (t : FileTree) (dir : String) : List (Except FileError String) :=
  (t.walk dir).filter Suite.isStep

/-- Adds the suites below a directory. -/
def Catalogue.loadDirectory (k : Catalogue) (t : FileTree) (dir : String) : Loading :=
  if t.isDirectory dir then
    let (suites, failure) := Suite.loadAll t (suiteSteps t dir)
    let loaded := k.insertAll suites
    let result :=
      match failure with
      | some e => .error e
      | none => loaded.check.map fun _ => suites.length
    ⟨result, loaded, k.replacedBy suites⟩
  else ⟨.error (.config (.noSuitesDirectory dir)), k, []⟩

/-- The log of a loading. -/
def Loading.log (l : Loading) : Log :=
  l.replaced.map fun g => Log.warning ("Suite for " ++ g.name ++ " replaced by a loaded suite")

end Conformance
