import Conformance.Path

/-!
# File trees

The files and directories that the runner reads and writes, as a value. Every operation takes a path
as a text and follows it part by part from the root or from the home directory; `FileTree.locate`
states when that succeeds. `lookup_put` says what a place holds after another was written.
-/

namespace Conformance

/-- Why an operation on files fails. -/
inductive FileError where
  | notFound
  | permissionDenied
  | alreadyExists
  | notDirectory
  | isDirectory
  | nameTooLong
  | nulInName
  | notText
  /-- A directory met on a walk cannot be entered. -/
  | onWalk (path : String) (cause : FileError)
  deriving Repr, DecidableEq

/-- The sentence for an error. -/
def FileError.message : FileError → String
  | .notFound => "No such file or directory (os error 2)"
  | .permissionDenied => "Permission denied (os error 13)"
  | .alreadyExists => "File exists (os error 17)"
  | .notDirectory => "Not a directory (os error 20)"
  | .isDirectory => "Is a directory (os error 21)"
  | .nameTooLong => "File name too long (os error 36)"
  | .nulInName => "file name contained an unexpected NUL byte"
  | .notText => "stream did not contain valid UTF-8"
  | .onWalk path cause => "IO error for operation on " ++ path ++ ": " ++ cause.message

/-- The sentence for an error, followed by that for its cause if it has one. -/
def FileError.chain : FileError → String
  | .onWalk path cause => (onWalk path cause).message ++ ": " ++ cause.chain
  | e => e.message

/-- What a place holds. -/
inductive Entry where
  | directory
  | file (content : ByteArray) (executable : Bool)

/-- Two entries are compared byte by byte. -/
def Entry.decEq : (a b : Entry) → Decidable (a = b)
  | .directory, .directory => isTrue rfl
  | .directory, .file .. => isFalse nofun
  | .file .., .directory => isFalse nofun
  | .file a x, .file b y =>
    decidable_of_decidable_of_iff (p := a.data = b.data ∧ x = y)
      ⟨fun ⟨h, h'⟩ => h' ▸ (ByteArray.ext h : a = b) ▸ rfl,
        fun h => by injection h with h h'; exact ⟨h ▸ rfl, h'⟩⟩

instance : DecidableEq Entry := Entry.decEq

/-- A place: the names from the root down. -/
abbrev Place := List String

/-- The entries of a file system with a home directory. The root is always a directory. -/
structure FileTree where
  home : Place
  entries : List (Place × Entry)

namespace FileTree

/-- A tree whose home is a directory and which holds nothing else. -/
def empty : FileTree := ⟨["work"], [(["work"], .directory)]⟩

/-- What a place holds. -/
def lookup (t : FileTree) (p : Place) : Option Entry :=
  if p = [] then some .directory else (t.entries.find? (·.1 = p)).map (·.2)

/-- Puts an entry in the place of the one with the same place, or behind all. -/
def putEntry (p : Place) (e : Entry) : List (Place × Entry) → List (Place × Entry)
  | [] => [(p, e)]
  | (q, f) :: rest => if q = p then (p, e) :: rest else (q, f) :: putEntry p e rest

/-- The tree with an entry at a place. -/
def put (t : FileTree) (p : Place) (e : Entry) : FileTree :=
  { t with entries := putEntry p e t.entries }

/-- The tree without a place and all below it. -/
def remove (t : FileTree) (p : Place) : FileTree :=
  { t with entries := t.entries.filter fun e => !p.isPrefixOf e.1 }

theorem find?_putEntry (p q : Place) (e : Entry) : ∀ l : List (Place × Entry),
    ((putEntry p e l).find? (·.1 = q)).map (·.2)
      = if p = q then some e else (l.find? (·.1 = q)).map (·.2)
  | [] => by by_cases h : p = q <;> simp [putEntry, h]
  | (r, f) :: rest => by
    by_cases hr : r = p
    · subst hr
      by_cases hq : r = q <;> simp [putEntry, hq]
    · by_cases hq : r = q
      · subst hq
        simp [putEntry, hr, Ne.symm hr]
      · simp [putEntry, hr, hq, find?_putEntry p q e rest]

theorem lookup_put {p : Place} (hp : p ≠ []) (t : FileTree) (e : Entry) (q : Place) :
    (t.put p e).lookup q = if p = q then some e else t.lookup q := by
  unfold lookup put
  by_cases hq : q = []
  · subst hq
    simp [hp]
  · simp only [hq, if_false]
    exact find?_putEntry p q e t.entries

/-- How a path ends: with a name, with a slash behind it, or with a point. -/
inductive Ending where
  | name
  | slash
  | point
  deriving Repr, DecidableEq

/-- How the path ends. -/
def ending (path : String) : Ending :=
  match (Path.split path).getLast? with
  | some "" => if path = "" then .name else .slash
  | some "." => .point
  | _ => .name

/-- Follows names from a place down. Every place on the way has to be a directory. -/
def follow (t : FileTree) : Place → List String → Except FileError Place
  | p, [] => .ok p
  | p, name :: rest =>
    match t.lookup p with
    | none => .error .notFound
    | some (.file ..) => .error .notDirectory
    | some .directory =>
      if name = ".." then t.follow p.dropLast rest
      else if 255 < name.utf8ByteSize then .error .nameTooLong
      else t.follow (p ++ [name]) rest

/-- The place that a path names, which need not hold anything. -/
def locate (t : FileTree) (path : String) : Except FileError Place :=
  if path.toList.contains '\x00' then .error .nulInName
  else if path = "" then .error .notFound
  else if 4096 ≤ path.utf8ByteSize then .error .nameTooLong
  else
    t.follow (if Path.isAbsolute path then [] else t.home)
      ((Path.split path).filter fun p => p ≠ "" && p ≠ ".")

/-- The entry that a path names, and its place. -/
def find (t : FileTree) (path : String) : Except FileError (Place × Entry) := do
  let p ← t.locate path
  match t.lookup p with
  | none => throw .notFound
  | some (.file content x) =>
    if ending path = .name then return (p, .file content x) else throw .notDirectory
  | some .directory => return (p, .directory)

/-- Does the path name something? -/
def exists? (t : FileTree) (path : String) : Bool := (t.find path).toOption.isSome

/-- Does the path name a directory? -/
def isDirectory (t : FileTree) (path : String) : Bool :=
  match t.find path with
  | .ok (_, .directory) => true
  | _ => false

/-- The bytes of a file. -/
def readBytes (t : FileTree) (path : String) : Except FileError ByteArray := do
  match ← t.find path with
  | (_, .file content _) => return content
  | (_, .directory) => throw .isDirectory

/-- The text of a file. -/
def readText (t : FileTree) (path : String) : Except FileError String := do
  match String.fromUTF8? (← t.readBytes path) with
  | some s => return s
  | none => throw .notText

/-- The place where a file may be made or emptied. -/
def target (t : FileTree) (path : String) : Except FileError (Place × Option Entry) := do
  let p ← t.locate path
  match t.lookup p with
  | some .directory => throw .isDirectory
  | found =>
    match ending path with
    | .name => return (p, found)
    | .slash => throw .isDirectory
    | .point => throw (if found.isSome then .notDirectory else .notFound)

/-- Writes a file anew, in place of what it held. -/
def write (t : FileTree) (path : String) (content : ByteArray) : Except FileError FileTree := do
  match ← t.target path with
  | (p, some (.file _ x)) => return t.put p (.file content x)
  | (p, _) => return t.put p (.file content false)

/-- Writes a text as a file. -/
def writeText (t : FileTree) (path text : String) : Except FileError FileTree :=
  t.write path text.toUTF8

/-- Appends to a file that is there. -/
def append (t : FileTree) (path : String) (content : ByteArray) : Except FileError FileTree := do
  match ← t.find path with
  | (p, .file old x) => return t.put p (.file (old ++ content) x)
  | (_, .directory) => throw .isDirectory

/-- Appends a text to a file that is there. -/
def appendText (t : FileTree) (path text : String) : Except FileError FileTree :=
  t.append path text.toUTF8

/-- Makes one directory. -/
def makeDirectory (t : FileTree) (path : String) : Except FileError FileTree := do
  let p ← t.locate path
  match t.lookup p with
  | some (.file ..) =>
    throw (if ending path = .point then .notDirectory else .alreadyExists)
  | some .directory => throw .alreadyExists
  | none => if ending path = .point then throw .notFound else return t.put p .directory

/-- The parents of a path, the nearest first. -/
def parentsOf : Nat → String → List String
  | 0, _ => []
  | fuel + 1, path =>
    match Path.parent? path with
    | none => []
    | some "" => []
    | some q => q :: parentsOf fuel q

/-- Makes a directory, unless it is one already. -/
def ensureDirectory (t : FileTree) (path : String) : Except FileError Unit × FileTree :=
  match t.makeDirectory path with
  | .ok u => (.ok (), u)
  | .error e => (if t.isDirectory path then .ok () else .error e, t)

/-- Makes a directory, and before it those of its parents that have to be made; the nearest parent
stands in front. -/
def makeBelow : FileTree → String → List String → Except FileError Unit × FileTree
  | t, path, [] => t.ensureDirectory path
  | t, path, parent :: rest =>
    match t.makeDirectory path with
    | .error .notFound =>
      match makeBelow t parent rest with
      | (.ok _, u) => u.ensureDirectory path
      | failed => failed
    | _ => t.ensureDirectory path

/-- Makes a directory and all of its parents that are not there. Parents that were made stay if a
later one cannot be made. -/
def makeDirectories (t : FileTree) (path : String) : Except FileError Unit × FileTree :=
  if path = "" then (.ok (), t) else t.makeBelow path (parentsOf (path.length + 1) path)

/-- The tree without what lies below a place. -/
def clear (t : FileTree) (p : Place) : FileTree :=
  { t with entries := t.entries.filter fun e => e.1 = p || !p.isPrefixOf e.1 }

/-- Does the path end with a name, so that its parent can let go of it? The root, and a directory
that ends as a point or two, cannot be removed. -/
def endsWithName (path : String) : Bool :=
  match ((Path.split path).filter (· ≠ "")).getLast? with
  | some name => name ≠ "." && name ≠ ".."
  | none => false

/-- Removes a directory and all below it; a directory that cannot be removed itself loses all below.
-/
def removeDirectory (t : FileTree) (path : String) : Except FileError FileTree := do
  match ← t.find path with
  | (p, .directory) => return if endsWithName path then t.remove p else t.clear p
  | _ => throw .notDirectory

/-- Removes a file. -/
def removeFile (t : FileTree) (path : String) : Except FileError FileTree := do
  match ← t.find path with
  | (p, .file ..) => return t.remove p
  | _ => throw .isDirectory

/-- Puts a name among rising ones, unless it is there. -/
def insertName (name : String) : List String → List String
  | [] => [name]
  | n :: rest =>
    if name = n then n :: rest
    else if name < n then name :: n :: rest
    else n :: insertName name rest

/-- The names in a directory, in rising order. -/
def namesIn (t : FileTree) (p : Place) : List String :=
  (t.entries.filterMap fun e =>
    if e.1.dropLast = p then e.1.getLast? else none).foldr insertName []

/-- A path and what follows below it, each directory before what it holds. A directory whose path is
too long to enter is followed by an error. -/
def walkFrom (t : FileTree) : Nat → Place → String → List (Except FileError String)
  | 0, _, path => [.ok path]
  | fuel + 1, p, path =>
    match t.lookup p with
    | some .directory =>
      if 4096 ≤ path.utf8ByteSize then [.ok path, .error (.onWalk path .nameTooLong)]
      else
        .ok path ::
          (t.namesIn p).flatMap fun name => t.walkFrom fuel (p ++ [name]) (Path.join path name)
    | _ => [.ok path]

/-- The paths of all that a directory holds, with the directory in front. -/
def walk (t : FileTree) (path : String) : List (Except FileError String) :=
  match t.locate path with
  | .ok p => t.walkFrom (t.entries.length + 1) p path
  | .error _ => []

/-- The paths of all files below the home directory, seen from there. -/
def files (t : FileTree) : List String :=
  (t.entries.filterMap fun e =>
    match e.2 with
    | .file .. =>
      if t.home.isPrefixOf e.1 then some ("/".intercalate (e.1.drop t.home.length)) else none
    | .directory => none).mergeSort fun a b => decide (a ≤ b)

end FileTree

end Conformance
