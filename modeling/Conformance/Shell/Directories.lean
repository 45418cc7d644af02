import Conformance.Shell.Lines

/-!
# Programs on files

The programs that list, make, copy, move and remove files, and that take paths apart.
-/

namespace Conformance.Shell

open Setting (Options)

/-- Does something for each path, one after the other. -/
def eachPath (s : Setting) (paths : List Octets) (step : Effect → String → Effect) : Effect :=
  paths.foldl (fun e p => step e (Octets.toText p)) (s.ends 0)

/-- The name that a path ends with. -/
def finalName (path : String) : String := (Path.fileName? path).getD ""

/-! ## Lists -/

/-- Writes the names in directories. Files are listed in front of directories, and a directory has a
title if there is more than one operand. -/
def listUtility (s : Setting) : Effect :=
  s.withOptions 2 "aA1dhrRlFptSCxmgGinosu" "" fun o =>
    let operands := if o.operands.isEmpty then [['.']] else o.operands
    let ordered (ns : List String) : List String :=
      let ns := ns.mergeSort fun a b => decide (a ≤ b)
      if o.has 'r' then ns.reverse else ns
    let paths := ordered (operands.map Octets.toText)
    let marked (path name : String) : String :=
      if !(o.has 'F' || o.has 'p') then name
      else if s.files.isDirectory path then name ++ "/"
      else
        match s.files.find path with
        | .ok (_, .file _ true) => if o.has 'F' then name ++ "*" else name
        | _ => name
    let written (ns : List String) : String :=
      if o.has 'm' then (if ns.isEmpty then "" else ", ".intercalate ns ++ "\n")
      else String.join (ns.map (· ++ "\n"))
    let missing := paths.filterMap fun p =>
      match s.files.find p with
      | .error f => some ("cannot access '" ++ p ++ "': " ++ reasonOf f)
      | .ok _ => none
    let isListed (p : String) : Bool := !o.has 'd' && s.files.isDirectory p
    let plain := paths.filter fun p => s.files.exists? p && !isListed p
    let directories := paths.filter isListed
    let namesOf (p : String) : List String :=
      let inner := match s.files.find p with
        | .ok (place, _) => s.files.namesIn place
        | .error _ => []
      let inner := if o.has 'a' then "." :: ".." :: inner
        else if o.has 'A' then inner
        else inner.filter (!·.startsWith ".")
      (ordered inner).map fun n => marked (Path.join p n) n
    let first := written (plain.map fun p => marked p p)
    let blocks := directories.map fun p =>
      (if 1 < operands.length then p ++ ":\n" else "") ++ written (namesOf p)
    let blocks := if plain.isEmpty then blocks else first :: blocks
    let e := missing.foldl (fun (e : Effect) m => e.complain 2 (s.complaint m)) (s.ends 0)
    e.write (Octets.ofText ("\n".intercalate blocks))

/-! ## Making and removing -/

/-- Makes directories. -/
def makeUtility (s : Setting) : Effect :=
  s.withOptions 1 "pv" "m" fun o =>
    if o.operands.isEmpty then s.misused 1 "missing operand"
    else
      eachPath s o.operands fun e path =>
        let (made, files) := if o.has 'p' then e.files.makeDirectories path
          else
            match e.files.makeDirectory path with
            | .ok files => (.ok (), files)
            | .error f => (.error f, e.files)
        match made with
        | .ok _ =>
          let isNew := o.has 'v' && !e.files.isDirectory path
          { e with files := files }.write (if isNew then
            Octets.ofText (s.complaint ("created directory '" ++ path ++ "'\n")) else [])
        | .error f =>
          { e with files := files }.complain 1
            (s.complaint ("cannot create directory '" ++ path ++ "': " ++ reasonOf f))

/-- Removes empty directories. -/
def unmakeUtility (s : Setting) : Effect :=
  s.withOptions 1 "pv" "" fun o =>
    if o.operands.isEmpty then s.misused 1 "missing operand"
    else
      eachPath s o.operands fun e path =>
        let failed (reason : String) : Effect :=
          e.complain 1 (s.complaint ("failed to remove '" ++ path ++ "': " ++ reason))
        match e.files.find path with
        | .error f => failed (reasonOf f)
        | .ok (_, .file ..) => failed "Not a directory"
        | .ok (place, .directory) =>
          if (e.files.namesIn place).isEmpty then { e with files := e.files.remove place }
          else failed "Directory not empty"

/-- Removes files, and with an option directories. -/
def removeUtility (s : Setting) : Effect :=
  s.withOptions 1 "rRfdvi" "" fun o =>
    let isForced := o.has 'f'
    if o.operands.isEmpty && !isForced then s.misused 1 "missing operand"
    else
      eachPath s o.operands fun e path =>
        let failed (reason : String) : Effect :=
          e.complain 1 (s.complaint ("cannot remove '" ++ path ++ "': " ++ reason))
        match e.files.find path with
        | .ok (place, .file ..) => { e with files := e.files.remove place }
        | .ok (place, .directory) =>
          if o.has 'r' || o.has 'R' then
            if FileTree.endsWithName path then { e with files := e.files.remove place }
            else
              e.complain 1 (s.complaint ("refusing to remove '.' or '..' directory: skipping '"
                ++ path ++ "'"))
          else if o.has 'd' then
            if (e.files.namesIn place).isEmpty then { e with files := e.files.remove place }
            else failed "Directory not empty"
          else failed "Is a directory"
        | .error f =>
          if isForced && (f = .notFound || f = .notDirectory) then e else failed (reasonOf f)

/-- Makes files that are not there. -/
def touchUtility (s : Setting) : Effect :=
  s.withOptions 1 "acmfh" "dtr" fun o =>
    if o.operands.isEmpty then s.misused 1 "missing file operand"
    else
      eachPath s o.operands fun e path =>
        if e.files.exists? path || o.has 'c' then e
        else
          match e.files.write path ByteArray.empty with
          | .ok files => { e with files := files }
          | .error f => e.complain 1 (s.complaint ("cannot touch '" ++ path ++ "': " ++ reasonOf f))

/-! ## Copies -/

/-- Puts what one place holds, and all below it, in another. -/
def graft (files : FileTree) (source goal : Place) : FileTree :=
  (files.entries.filter fun e => source.isPrefixOf e.1).foldl
    (fun t e => t.put (goal ++ e.1.drop source.length) e.2) files

/-- Writes a file to another place, and removes the first if it is moved. -/
def copyOne (s : Setting) (moves recurs : Bool) (e : Effect) (path goal : String) : Effect :=
  let goal := if e.files.isDirectory goal then Path.join goal (finalName path) else goal
  match e.files.find path with
  | .error f => e.complain 1 (s.complaint ("cannot stat '" ++ path ++ "': " ++ reasonOf f))
  | .ok (place, entry) =>
    match entry, moves || recurs with
    | .directory, false =>
      e.complain 1 (s.complaint ("-r not specified; omitting directory '" ++ path ++ "'"))
    | _, _ =>
      match e.files.locate goal, e.files.target goal with
      | .ok there, known =>
        if there = place then
          e.complain 1 (s.complaint ("'" ++ path ++ "' and '" ++ goal ++ "' are the same file"))
        else if (e.files.lookup there.dropLast).isNone then missing goal
        else
          match entry, known with
          | .file content x, .ok (_, some (.file _ y)) =>
            settle place (e.files.put there (.file content (if moves then x else y)))
          | _, _ => settle place (graft e.files place there)
      | .error _, _ => missing goal
where
  /-- The effect with the files as they are now, without the first place if it was moved from there.
  -/
  settle (place : Place) (files : FileTree) : Effect :=
    { e with files := if moves then files.remove place else files }
  /-- A complaint about a place that cannot be. -/
  missing (goal : String) : Effect :=
    e.complain 1 (s.complaint (if moves then
        "cannot move '" ++ path ++ "' to '" ++ goal ++ "': No such file or directory"
      else "cannot create regular file '" ++ goal ++ "': No such file or directory"))

/-- Copies or moves files. -/
def copyUtility (moves : Bool) (s : Setting) : Effect :=
  s.withOptions 1 "abdfHiLlnPpRrsuTvx" "t" fun o =>
    match o.operands with
    | [] => s.misused 1 "missing file operand"
    | [a] => s.misused 1 ("missing destination file operand after '" ++ Octets.toText a ++ "'")
    | operands =>
      let goal := Octets.toText (operands.getLast?.getD [])
      let sources := operands.dropLast
      if 1 < sources.length && !s.files.isDirectory goal then
        s.fails 1 ("target '" ++ goal ++ "': "
          ++ if s.files.exists? goal then "Not a directory" else "No such file or directory")
      else
        eachPath s sources fun e path =>
          copyOne s moves (o.has 'r' || o.has 'R' || o.has 'a') e path goal

/-- Can files be run by a mode, if that could be done before as `was` says? Nothing if it is no
mode. -/
def runsBy? (mode : Octets) (was : Bool) : Option Bool :=
  if mode.isEmpty then none
  else if mode.all Char.isDigit then
    if mode.all (fun c => (octalDigit? c).isSome) && mode.length ≤ 4 then
      some (mode.any fun c => (c.toNat - 48) % 2 = 1)
    else none
  else
    (between ',' mode).foldlM (fun was clause =>
      let who := clause.takeWhile "ugoa".toList.contains
      match clause.drop who.length with
      | sign :: letters =>
        if !("+-=".toList.contains sign) || !(letters.all "rwxXst".toList.contains) then none
        else
          let named := letters.contains 'x' || (letters.contains 'X' && was)
          some (match sign with
            | '+' => was || named
            | '-' => was && !named
            | _ => named)
      | [] => none) was

/-- Lets files be run, or not. -/
def permitUtility (s : Setting) : Effect :=
  let operands := s.args.filter fun a => a ≠ "-R".toList && a ≠ "--".toList
  match operands with
  | [] => s.misused 1 "missing operand"
  | [mode] => s.misused 1 ("missing operand after '" ++ Octets.toText mode ++ "'")
  | mode :: paths =>
    if (runsBy? mode false).isNone then s.misused 1 ("invalid mode: '" ++ Octets.toText mode ++ "'")
    else
      eachPath s paths fun e path =>
        match e.files.find path with
        | .ok (place, .file content x) =>
          { e with files := e.files.put place (.file content ((runsBy? mode x).getD x)) }
        | .ok _ => e
        | .error f => e.complain 1 (s.complaint ("cannot access '" ++ path ++ "': " ++ reasonOf f))

/-- Writes the input, and writes it to files too. -/
def copyInputUtility (s : Setting) : Effect :=
  s.withOptions 1 "aip" "" fun o =>
    let content := Octets.toBytes s.input
    let e := eachPath s o.operands fun e path =>
      let written := if o.has 'a' && e.files.exists? path then e.files.append path content
        else e.files.write path content
      match written with
      | .ok files => { e with files := files }
      | .error f =>
        if path = "/dev/null" then e else e.complain 1 (s.complaint (path ++ ": " ++ reasonOf f))
    { e with out := s.input, input := [] }

/-- Says where two files begin to differ. -/
def compareUtility (s : Setting) : Effect :=
  s.withOptions 2 "slq" "" fun o =>
    match o.operands with
    | [] => s.fails 2 ("missing operand after '" ++ s.name ++ "'\n"
      ++ s.complaint ("Try '" ++ s.name ++ " --help' for more information."))
    | a :: rest =>
      let b := rest.headD ['-']
      let text (p : Octets) : Except FileError Octets := if p = ['-'] then .ok s.input else s.read p
      match text a, text b with
      | .error f, _ => s.fails 2 (Octets.toText a ++ ": " ++ reasonOf f)
      | _, .error f => s.fails 2 (Octets.toText b ++ ": " ++ reasonOf f)
      | .ok x, .ok y =>
        if x = y then s.ends 0
        else
          let same := ((x.zip y).takeWhile fun (c, d) => c = d).length
          let line := toString (1 + (x.take same).count '\n')
          if o.has 's' then s.ends 1
          else if same = x.length || same = y.length then
            (s.ends 0).complain 1 (s.complaint ("EOF on "
              ++ Octets.toText (if same = x.length then a else b)
              ++ if same = 0 then " which is empty"
                else
                  let feeds := (x.take same).count '\n'
                  " after byte " ++ toString same ++ if (x.take same).getLast? = some '\n'
                    then ", line " ++ toString feeds else ", in line " ++ toString (feeds + 1)))
          else
            { s.writes (Octets.ofText (Octets.toText a ++ " " ++ Octets.toText b ++ " differ: char "
                ++ toString (same + 1) ++ ", line " ++ line ++ "\n")) with status := 1 }

/-! ## Paths -/

/-- The name that a path ends with, without an ending if it is longer than that. -/
def nameOf (path ending : Octets) : Octets :=
  let trimmed := (path.reverse.dropWhile (· = '/')).reverse
  let name := if trimmed.isEmpty then path.take 1 else (trimmed.reverse.takeWhile (· ≠ '/')).reverse
  if !ending.isEmpty && ending.length < name.length && ending.isSuffixOf name then
    name.take (name.length - ending.length)
  else name

/-- The path of the directory that a path leads into. -/
def directoryOf (path : Octets) : Octets :=
  let trimmed := (path.reverse.dropWhile (· = '/')).reverse
  if trimmed.isEmpty then (if path.isEmpty then ['.'] else ['/'])
  else
    let front := (trimmed.reverse.dropWhile (· ≠ '/')).reverse
    let front' := (front.reverse.dropWhile (· = '/')).reverse
    if front.isEmpty then ['.'] else if front'.isEmpty then ['/'] else front'

/-- Writes the names that paths end with. -/
def nameUtility (s : Setting) : Effect :=
  s.withOptions 1 "az" "s" fun o =>
    match o.operands, o.has 'a' || (o.value? 's').isSome with
    | [], _ => s.misused 1 "missing operand"
    | paths, true => s.writesLines (paths.map fun p => nameOf p ((o.value? 's').getD []))
    | [p], _ => s.writesLines [nameOf p []]
    | [p, ending], _ => s.writesLines [nameOf p ending]
    | _ :: _ :: extra :: _, _ => s.misused 1 ("extra operand '" ++ Octets.toText extra ++ "'")

/-- Writes the directories that paths lead into. -/
def directoryUtility (s : Setting) : Effect :=
  s.withOptions 1 "z" "" fun o =>
    if o.operands.isEmpty then s.misused 1 "missing operand"
    else s.writesLines (o.operands.map directoryOf)

end Conformance.Shell
