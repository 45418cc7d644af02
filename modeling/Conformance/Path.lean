/-!
# Paths

A path is a text whose parts stand between slashes. `Path.join` puts one path behind another, and
`Path.parent?`, `Path.fileName?` and `Path.extension?` look at its parts, among which empty ones do
not count, and points only at the start of a path that is not absolute.
-/

namespace Conformance.Path

/-- Splits at every slash. -/
def splitChars : List Char → List (List Char)
  | [] => [[]]
  | c :: rest =>
    match splitChars rest with
    | [] => [[c]]
    | p :: ps => if c = '/' then [] :: p :: ps else (c :: p) :: ps

/-- What stands between the slashes. -/
def split (path : String) : List String := (splitChars path.toList).map String.ofList

/-- Does the path begin at the root? -/
def isAbsolute (path : String) : Bool := path.toList.head? = some '/'

/-- The parts that count. -/
def parts (path : String) : List String :=
  let named := (split path).filter (· ≠ "")
  let (front, rest) := if isAbsolute path then ([], named) else (named.take 1, named.drop 1)
  front ++ rest.filter (· ≠ ".")

/-- The path of `parts`, from the root or not. -/
def ofParts (absolute : Bool) (parts : List String) : String :=
  (if absolute then "/" else "") ++ "/".intercalate parts

/-- The path `b`, seen from the directory `a`; an absolute path stays as it is. -/
def join (a b : String) : String :=
  if isAbsolute b || a = "" then b
  else if a.toList.getLast? = some '/' then a ++ b
  else a ++ "/" ++ b

/-- The path without its last part; none for the root and for the empty path. -/
def parent? (path : String) : Option String :=
  match parts path with
  | [] => none
  | ps => some (ofParts (isAbsolute path) ps.dropLast)

/-- The last part, unless it leads upwards or stands for the directory itself. -/
def fileName? (path : String) : Option String :=
  (parts path).getLast?.filter fun p => p ≠ ".." && p ≠ "."

/-- What stands behind the last point of the file's name, if something stands before it. -/
def extension? (path : String) : Option String :=
  (fileName? path).bind fun name =>
    let behind := name.toList.reverse.takeWhile (· ≠ '.')
    if behind.length + 1 < name.length then some (String.ofList behind.reverse) else none

example : join "a/b" "c" = "a/b/c" := by decide
example : join "a" "/c" = "/c" := by decide
example : join "" "c" = "c" := by decide
example : join "a/" "" = "a/" := by decide
example : extension? "d/..yaml" = some "yaml" := by decide
example : extension? "d/.yaml" = none := by decide

end Conformance.Path
