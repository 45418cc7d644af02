import Conformance.Console
import Conformance.Transport.Configured
import Std.Time.DateTime.Timestamp

/-!
# The program

Reads the files below the working directory, does what the command line says on them as a value, and
writes back what changed. A file may be run if its first line names the program that runs it. There
is no network.
-/

namespace Conformance.Program

/-- May a file with this content be run? -/
def isExecutable (content : ByteArray) : Bool := content.toList.take 2 = [35, 33]

/-- What a directory holds at any depth, from its entries. -/
partial def readEntries (place : Place) (found : Array IO.FS.DirEntry) :
    IO (List (Place × Entry)) := do
  let mut entries := []
  for e in found do
    let inner := place ++ [e.fileName]
    match (← e.path.metadata).type with
    | .dir => entries := entries ++ (inner, .directory) :: (← readEntries inner (← e.path.readDir))
    | .file =>
      let content ← IO.FS.readBinFile e.path
      entries := entries ++ [(inner, .file content (isExecutable content))]
    | _ => pure ()
  return entries

/-- The files below the working directory. -/
def readFiles : IO FileTree := do
  let dir ← IO.currentDir
  let home := Path.parts dir.toString
  let above := (List.range home.length).map fun n => (home.take (n + 1), Entry.directory)
  return ⟨home, above ++ (← readEntries home (← dir.readDir))⟩

/-- The path of a place from the root. -/
def pathOf (place : Place) : String := Path.ofParts true place

/-- Makes the files what a value says, given what they were. -/
def writeFiles (before after : FileTree) : IO Unit := do
  for (place, _) in before.entries do
    match before.lookup place, after.lookup place with
    | some .directory, none => IO.FS.removeDirAll (pathOf place)
    | some (.file ..), none =>
      if (after.lookup place.dropLast).isSome then IO.FS.removeFile (pathOf place)
    | _, _ => pure ()
  for (place, entry) in after.entries do
    if before.lookup place ≠ some entry then
      match entry with
      | .directory => IO.FS.createDirAll (pathOf place)
      | .file content _ => IO.FS.writeBinFile (pathOf place) content

/-- The environment as far as the program looks at it. -/
def readEnvironment : IO (String → Option String) := do
  let values ← Key.all.mapM fun k => do return (k.variableName, ← IO.getEnv k.variableName)
  return fun name => (values.find? (·.1 == name)).bind (·.2)

/-- Does what the arguments say. -/
def run (arguments : List String) : IO UInt32 := do
  let files ← readFiles
  let environment ← readEnvironment
  let now ← Std.Time.Timestamp.now
  let started := Clock.ofNanoseconds now.toNanosecondsSinceUnixEpoch.toInt
  let (exit, s) :=
    Console.program (.ofConfig .silent) started arguments environment (Session.start files ())
  writeFiles files s.files
  IO.print exit.out
  IO.eprint exit.err
  return exit.code.toUInt32

end Conformance.Program

/-- Runs the program with the arguments of its call. -/
def main (arguments : List String) : IO UInt32 := Conformance.Program.run arguments
