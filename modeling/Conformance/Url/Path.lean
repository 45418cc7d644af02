import Conformance.Url.Address
import Conformance.Url.Percent

/-!
# Paths

A path is a row of steps behind slashes. A step of one point stays and a step of two points leads
up, so neither is left in the path; the letter of a drive is never left upwards. What kind of scheme
an address has decides what counts as a slash.
-/

namespace Conformance.Url

/-- The kinds of schemes. -/
inductive Kind where
  /-- A well-known scheme with a host. -/
  | web
  /-- The scheme of files. -/
  | file
  | other
  deriving Repr, DecidableEq

/-- Does the kind know what its addresses mean? -/
def Kind.isWellKnown (k : Kind) : Bool := k != .other

/-- Does the character divide steps? -/
def Kind.isSlash (k : Kind) (c : Char) : Bool := c = '/' || (k.isWellKnown && c = '\\')

/-- Is the step the letter of a drive, with a colon or the bar that stands for it? -/
def isDrive : List Char → Bool
  | [c, mark] => c.isAlpha && (mark = ':' || mark = '|')
  | _ => false

/-- Is the step one that stays? -/
def isHere (p : List Char) : Bool := [".", "%2e"].contains (String.ofList (p.map Char.toLower))

/-- Is the step one that leads up? -/
def isUp (p : List Char) : Bool :=
  ["..", ".%2e", "%2e.", "%2e%2e"].contains (String.ofList (p.map Char.toLower))

/-- Does the step name a drive, alone or in front of a backslash? -/
def namesDrive : List Char → Bool
  | c :: mark :: '\\' :: _ => isDrive [c, mark]
  | p => isDrive p

/-- The steps one step up. Both run from the last step to the first. -/
def stepsUp : List (List Char) → List (List Char)
  | [] => []
  | p :: done => if namesDrive p then p :: done else done

/-- Follows the steps of a path; `done` is the path so far, from its last step to its first. A path
of files that begins with a drive has a colon behind the letter. -/
def follow (k : Kind) (done : List (List Char)) : List (List Char) → List (List Char)
  | [] => done.reverse
  | p :: rest =>
    let isLast := rest.isEmpty
    if isUp p then
      if isLast then ([] :: stepsUp done).reverse else follow k (stepsUp done) rest
    else if isHere p then
      if isLast then ([] :: done).reverse else follow k done rest
    else
      let p := if k = .file && done.isEmpty && isDrive p then p.take 1 ++ [':'] else p
      follow k (p :: done) rest

/-- The steps of a path; `s` is its text behind the first slash. -/
def pathSteps (k : Kind) (s : List Char) : List (List Char) :=
  follow k [] ((splitWhere k.isSlash s).map (percentEncode notInPath))

/-- The path with these steps. A path of files begins with one slash. -/
def pathText (k : Kind) (steps : List (List Char)) : String :=
  let path := steps.flatMap fun p => '/' :: p
  String.ofList (if k = .file then '/' :: path.dropWhile (· = '/') else path)

end Conformance.Url
