import Conformance.Shell.Octets

/-!
# Interpreters

The first line of a file may name the program that runs it.
-/

namespace Conformance.Shell

/-- The words of the line that names the program which runs a file: its path and one argument. -/
def interpreter? (content : Octets) : Option (Octets × List Octets) :=
  let blank (c : Char) : Bool := c = ' ' || c = '\t'
  match content.takeWhile (· ≠ '\n') with
  | '#' :: '!' :: rest =>
    let rest := ((rest.dropWhile blank).reverse.dropWhile blank).reverse
    let path := rest.takeWhile (!blank ·)
    let argument := (rest.dropWhile (!blank ·)).dropWhile blank
    if path.isEmpty then none else some (path, if argument.isEmpty then [] else [argument])
  | _ => none

end Conformance.Shell
