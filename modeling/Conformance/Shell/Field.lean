import Conformance.FileTree
import Conformance.Shell.Pattern

/-!
# Fields

A word of a script turns into fields: the texts that a program gets as its arguments. Text that was
put in for a parameter is divided where separators stand in it, and a field with the marks of a
pattern turns into the paths that the pattern stands for.
-/

namespace Conformance.Shell

/-- The fields that a word turns into while it is put together: those that are complete, and the one
that is begun, from its end to its start. -/
structure Fields where
  complete : List (List Mark) := []
  begun : Option (List Mark) := none
  /-- Did blanks end the last field, so that a separator behind them ends no other one? -/
  parted : Bool := false

namespace Fields

/-- Ends the field that is begun. -/
def close (f : Fields) : Fields :=
  match f.begun with
  | some marks => { complete := f.complete ++ [marks.reverse] }
  | none => f

/-- Adds characters to the field that is begun, or begins one. -/
def add (f : Fields) (quoted : Bool) (s : Octets) : Fields :=
  let marks := s.map fun c => (c, quoted)
  { f with begun := some (marks.reverse ++ f.begun.getD []), parted := false }

/-- Is the character a separator that counts only once among others? -/
def isBlank (c : Char) : Bool := c = ' ' || c = '\t' || c = '\n'

/-- Ends a field at a separator. Between two separators that are no blanks stands an empty field. -/
def separate (f : Fields) (c : Char) : Fields :=
  match f.begun with
  | some _ => { f.close with parted := isBlank c }
  | none =>
    if isBlank c then f
    else if f.parted then { f with parted := false }
    else { f with complete := f.complete ++ [[]] }

/-- Adds a text that separators divide into fields. -/
def split (separators : Octets) (f : Fields) (s : Octets) : Fields :=
  s.foldl (fun f c => if separators.contains c then f.separate c else f.add false [c]) f

/-- All fields. -/
def all (f : Fields) : List (List Mark) := f.close.complete

end Fields

/-- The text of a field. -/
def plainField (field : List Mark) : Octets := field.map (·.1)

/-- Has the field a mark of a pattern? -/
def isPattern (field : List Mark) : Bool := field.any fun m => !m.2 && "*?[".toList.contains m.1

/-- The parts of a field between slashes. -/
def pathParts (field : List Mark) : List (List Mark) :=
  field.foldr (fun m parts =>
    if m.1 = '/' then [] :: parts
    else
      match parts with
      | part :: rest => (m :: part) :: rest
      | [] => [[m]]) [[]]

/-- The paths of which each part stands for a name, from a path on. -/
def pathsBelow (files : FileTree) : Octets → List (List Mark) → List Octets
  | path, [] => if files.exists? (Octets.toText path) then [path] else []
  | path, part :: rest =>
    let goes (name : Octets) : List Octets :=
      pathsBelow files (path ++ name ++ if rest.isEmpty then [] else ['/']) rest
    if isPattern part then
      match files.find (if path.isEmpty then "." else Octets.toText path) with
      | .ok (place, .directory) =>
        let names := ['.'] :: ['.', '.'] :: (files.namesIn place).map Octets.ofText
        let shows (n : Octets) : Bool := n.head? ≠ some '.' || part.head?.map (·.1) = some '.'
        (names.filter fun n => patternMatches part n && shows n).flatMap goes
      | _ => []
    else goes (plainField part)

/-- The paths that a field stands for, or else the field itself. -/
def globbed (files : FileTree) (field : List Mark) : List Octets :=
  if isPattern field then
    let found := pathsBelow files [] (pathParts field)
    if found.isEmpty then [plainField field] else found
  else [plainField field]

end Conformance.Shell
