import Conformance.Launcher
import Conformance.Shell.Evaluation

/-!
# Processes of a plain host

One way to start programs: that of a host with a shell, its utilities and no network.
`Process.run` starts a program by its path or by its name. A path leads to an executable file, whose
first line names the program that runs it; a name leads to one of the programs of the host.
Processes read nothing.
-/

namespace Conformance.Process

open Shell (Octets State)

/-- The programs of a host that scripts have no use for, with the status that each ends with when it
refuses an option in words. -/
def refusing : List (String × Int) :=
  [("arch", 1), ("b2sum", 1), ("base32", 1), ("cksum", 1), ("comm", 1), ("csplit", 1), ("date", 1),
    ("df", 1), ("expand", 1), ("factor", 1), ("fmt", 1), ("fold", 1), ("groups", 1), ("hostid", 1),
    ("install", 1), ("join", 1), ("link", 1), ("ln", 1), ("logname", 1), ("md5sum", 1),
    ("mkfifo", 1),
    ("mknod", 1), ("mktemp", 1), ("nproc", 1), ("numfmt", 1), ("od", 1), ("pathchk", 1), ("pr", 1),
    ("printenv", 2), ("ptx", 1), ("realpath", 1), ("sha1sum", 1), ("sha224sum", 1),
    ("sha256sum", 1),
    ("sha384sum", 1), ("sha512sum", 1), ("shred", 1), ("shuf", 1), ("split", 1), ("stat", 1),
    ("stdbuf", 125), ("sum", 1), ("truncate", 1), ("tsort", 1), ("unexpand", 1), ("unlink", 1),
    ("users", 1), ("vdir", 2), ("who", 1)]

/-- The programs of the host. -/
def programs : List String := Shell.hostPrograms ++ refusing.map (·.1)

/-- Places of the host that hold no program. -/
def barren : List String :=
  ["/bin", "/dev", "/etc", "/home", "/root", "/tmp", "/usr", "/usr/bin", "/var", "/dev/null",
    "/etc/hosts", "/etc/passwd"]

/-- The program of the host that a path names. -/
def programAt? (path : String) : Option String :=
  programs.find? fun p => path == "/bin/" ++ p || path == "/usr/bin/" ++ p

/-- How a script ended, and the files that it leaves. -/
def finished (files : FileTree) (s : State) : Ended × FileTree :=
  (⟨if s.isKilled || s.signal.isSome then none else some s.status,
    Octets.toBytes (s.buffered 0), Octets.toBytes (s.buffered 1)⟩,
    { s.files with home := files.home })

/-- Runs a utility. -/
def runUtility (files : FileTree) (u : Shell.Setting → Shell.Effect) (name : String)
    (args : List String) : Ended × FileTree :=
  let e := u ⟨name, args.map Octets.ofText, [], files⟩
  let err := e.err ++ Octets.ofText (String.join (e.remarks.map (· ++ "\n")))
  (⟨some e.status, Octets.toBytes e.out, Octets.toBytes err⟩, e.files)

/-- Runs a program of the host under the name that it was called by. -/
def runProgram (files : FileTree) (program name : String) (args : List String) : Ended × FileTree :=
  match program, refusing.find? (·.1 == program) with
  | "echo", _ => runUtility files (Shell.echoUtility false) name args
  | "printf", _ => runUtility files (Shell.printfUtility false) name args
  | _, some (_, code) =>
    match args.find? fun a => a.startsWith "--" && a ≠ "--" with
    | some option =>
      let reason := name ++ ": unrecognized option '" ++ option ++ "'\nTry '" ++ name
        ++ " --help' for more information.\n"
      (⟨some code, ByteArray.empty, reason.toUTF8⟩, files)
    | none => (⟨some 0, ByteArray.empty, ByteArray.empty⟩, files)
  | _, none =>
    let s : State := { name := Octets.ofText name, args := [], files := files }
    finished files
      (Shell.runProgram Shell.stepBound "" (Octets.ofText name) (args.map Octets.ofText) s)

/-- Starts the file at a path. A file may be run by another file, which may be run by a third one
and so on; `depth` bounds how many. -/
def runFile (files : FileTree) : Nat → String → List String → Except SpawnError (Ended × FileTree)
  | 0, _, _ => .error .unknownFormat
  | depth + 1, path, args =>
    match programAt? path with
    | some program => .ok (runProgram files program path args)
    | none =>
      if barren.contains path then .error (.file .permissionDenied)
      else
        match files.find path with
        | .error e => .error (.file e)
        | .ok (_, .directory) => .error (.file .permissionDenied)
        | .ok (_, .file content executable) =>
          if !executable then .error (.file .permissionDenied)
          else
            match Shell.interpreter? (Octets.ofBytes content) with
            | none => .error .unknownFormat
            | some (interpreter, argument) =>
              runFile files depth (Octets.toText interpreter)
                (argument.map Octets.toText ++ path :: args)

/-- How many bytes an argument may have. -/
def argumentBound : Nat := 131072

/-- How deep files may be run by one another. -/
def depthBound : Nat := 5

/-- Starts a program and waits for its end. -/
def run (program : String) (args : List String) (files : FileTree) :
    Except SpawnError (Ended × FileTree) :=
  if (program :: args).any fun a => a.toList.contains '\x00' then .error .nulInData
  else if program.toList.contains '/' then
    if args.any fun a => argumentBound ≤ a.utf8ByteSize then .error .argumentTooLong
    else runFile files depthBound program args
  else if program = "." || program = ".." then .error (.file .permissionDenied)
  else if 255 < program.utf8ByteSize then .error (.file .nameTooLong)
  else if programs.contains program then
    if args.any fun a => argumentBound ≤ a.utf8ByteSize then .error .argumentTooLong
    else .ok (runProgram files program program args)
  else .error (.file .notFound)

/-- The plain host, which has no state beside its files. -/
def launcher : Launcher Unit := fun program args _ files =>
  match run program args files with
  | .error e => ⟨.error e, (), files⟩
  | .ok (e, files) => ⟨.ok e, (), files⟩

end Conformance.Process
