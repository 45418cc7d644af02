import Conformance.Shell.Expression
import Conformance.Shell.Lines

/-!
# Edits of lines

An edit script is a row of steps that every line passes: a step says for which lines it is and what
it does with them. `readSteps` reads a script, and `editUtility` lets the lines of files pass it.
-/

namespace Conformance.Shell

/-- A line that a step is for. -/
inductive Selector where
  | final
  | line (n : Nat)
  /-- Every so many lines from a first one on. -/
  | every (first step : Nat)
  | matching (e : Expression)
  /-- So many lines behind another. -/
  | behind (n : Nat)

/-- The lines that a step is for. -/
inductive Reach where
  | all
  | one (s : Selector)
  | between (first last : Selector)

/-- A piece of what stands in place of a part: a text, or the part of a group. -/
inductive Image where
  | text (s : Octets)
  | group (n : Nat)

/-- What a step does. -/
inductive Edit where
  | print
  | printNumber
  | delete
  | quit (status : Nat)
  | replace (e : Expression) (image : List Image) (wanted : Nat → Bool) (prints : Bool)
  | exchange (characters images : Octets)
  /-- Writes a text in front of the line. -/
  | insert (s : Octets)
  /-- Writes a text behind the line. -/
  | append (s : Octets)
  /-- Writes a text instead of the line. -/
  | change (s : Octets)
  /-- The next steps, so many of them, are only for these lines. -/
  | group (size : Nat)
  | nothing

/-- A step of an edit script. -/
structure Step where
  reach : Reach
  /-- Is the step for all other lines? -/
  isNegated : Bool
  edit : Edit

/-! ## Reading -/

/-- What is wrong with an edit script, and how much of it is left there. -/
abbrev EditFault := Nat × String

/-- A fault of the script as a whole, which has no place. -/
def EditFault.unplaced (length : Nat) (reason : String) : EditFault := (length, reason)

/-- The text up to a mark, and the text behind the mark. A mark behind a backslash does not count.
-/
def upToMark? (mark : Char) : Octets → Option (Octets × Octets)
  | [] => none
  | '\\' :: c :: rest =>
    (upToMark? mark rest).map fun (s, rest) => (if c = mark then c :: s else '\\' :: c :: s, rest)
  | c :: rest =>
    if c = mark then some ([], rest) else (upToMark? mark rest).map fun (s, rest) => (c :: s, rest)

/-- Brackets at the start of a text, from behind the opening one to the closing one, and the text
behind. A closing bracket that comes first stands for itself. -/
def upToBracket (isFirst : Bool) : Octets → Octets × Octets
  | [] => ([], [])
  | c :: rest =>
    if c = ']' && !isFirst then ([c], rest)
    else
      let (s, rest) := upToBracket (isFirst && c = '^') rest
      (c :: s, rest)

/-- The expression up to a mark, and the text behind the mark. A mark behind a backslash or between
brackets does not count. -/
def expressionUpTo? (mark : Char) : Nat → Octets → Option (Octets × Octets)
  | 0, _ | _, [] => none
  | fuel + 1, '\\' :: c :: rest =>
    (expressionUpTo? mark fuel rest).map fun (s, rest) =>
      (if c = mark then c :: s else '\\' :: c :: s, rest)
  | fuel + 1, c :: rest =>
    if c = mark then some ([], rest)
    else if c = '[' then
      let (inner, rest) := upToBracket true rest
      (expressionUpTo? mark fuel rest).map fun (s, rest) => (c :: inner ++ s, rest)
    else (expressionUpTo? mark fuel rest).map fun (s, rest) => (c :: s, rest)

/-- A number at the start of a text, and the text behind it. -/
def readNumber (s : Octets) : Nat × Octets :=
  let digits := s.takeWhile Char.isDigit
  (digits.foldl (fun n c => 10 * n + (c.toNat - 48)) 0, s.drop digits.length)

/-- The text without blanks in front. -/
def skipSpaces (s : Octets) : Octets := s.dropWhile fun c => c = ' ' || c = '\t'

/-- Reads the selector at the start of a text, if there is one. -/
def readSelector (isExtended : Bool) (s : Octets) : Except EditFault (Option Selector × Octets) :=
  let expression (mark : Char) (rest : Octets) : Except EditFault (Option Selector × Octets) :=
    match expressionUpTo? mark (rest.length + 1) rest with
    | none => .error (0, "unterminated address regex")
    | some (pattern, rest) =>
      let folded := rest.head? = some 'I'
      let rest := if folded then rest.drop 1 else rest
      match Expression.read ⟨isExtended, folded⟩ pattern with
      | .error reason => .error (rest.length, reason)
      | .ok (e, _) => .ok (some (.matching e), rest)
  match s with
  | '$' :: rest => .ok (some .final, rest)
  | '/' :: rest => expression '/' rest
  | '\\' :: mark :: rest => expression mark rest
  | '+' :: rest =>
    let (n, rest) := readNumber rest
    .ok (some (.behind n), rest)
  | c :: rest =>
    if c.isDigit then
      match readNumber (c :: rest) with
      | (first, '~' :: rest) =>
        let (step, rest) := readNumber rest
        .ok (some (.every first step), rest)
      | (n, rest) => .ok (some (.line n), rest)
    else .ok (none, c :: rest)
  | [] => .ok (none, [])

/-- Reads for which lines a step is. -/
def readReach (isExtended : Bool) (s : Octets) : Except EditFault (Reach × Octets) := do
  match ← readSelector isExtended s with
  | (none, rest) => return (.all, rest)
  | (some first, rest) =>
    match skipSpaces rest with
    | ',' :: rest =>
      match ← readSelector isExtended (skipSpaces rest) with
      | (some last, rest) => return (.between first last, rest)
      | (none, rest) => .error (rest.length, "unexpected \x60,'")
    | rest => return (.one first, rest)

/-- The pieces of what stands in place of a part. -/
def readImage : Octets → List Image
  | [] => []
  | '\\' :: c :: rest =>
    if c.isDigit then .group (c.toNat - 48) :: readImage rest
    else .text [if c = 'n' then '\n' else if c = 't' then '\t' else c] :: readImage rest
  | '&' :: rest => .group 0 :: readImage rest
  | c :: rest => .text [c] :: readImage rest

/-- What pieces make of a part. -/
def imageOf (image : List Image) (f : Expression.Found) : Octets :=
  image.flatMap fun piece =>
    match piece with
    | .text s => s
    | .group n => f.group n

/-- Reads a replacement, from behind its letter. -/
def readReplacement (isExtended : Bool) : Octets → Except EditFault (Edit × Octets)
  | [] => .error (0, "unterminated \x60s' command")
  | mark :: rest =>
    match expressionUpTo? mark (rest.length + 1) rest with
    | none => .error (0, "unterminated \x60s' command")
    | some (pattern, rest) =>
      match upToMark? mark rest with
      | none => .error (0, "unterminated \x60s' command")
      | some (image, rest) =>
        let flags := rest.takeWhile fun c => "gpiIe".toList.contains c || c.isDigit
        let rest := rest.drop flags.length
        let number := readNumber (flags.filter Char.isDigit)
        let first := if flags.any Char.isDigit then number.1 else 1
        let everywhere := flags.contains 'g'
        let image := readImage image
        let folded := flags.contains 'i' || flags.contains 'I'
        match rest.head? with
        | some c =>
          if ";\x7d\n# \t".toList.contains c then
            finish rest image pattern folded first everywhere flags
          else .error (rest.length - 1, "unknown option to \x60s'")
        | none => finish rest image pattern folded first everywhere flags
where
  /-- Puts the parts of a replacement together. -/
  finish (rest : Octets) (image : List Image) (pattern : Octets) (folded : Bool) (first : Nat)
      (everywhere : Bool) (flags : Octets) : Except EditFault (Edit × Octets) :=
    if first = 0 then .error (rest.length, "number option to \x60s' command may not be zero")
    else
      match Expression.read ⟨isExtended, folded⟩ pattern with
      | .error reason => .error (rest.length, reason)
      | .ok (e, groups) =>
        let largest := image.foldl (fun n piece =>
          match piece with
          | .group m => max n m
          | .text _ => n) 0
        if groups < largest then
          .error (rest.length,
            "invalid reference \\" ++ toString largest ++ " on \x60s' command's RHS")
        else
          .ok (.replace e image (fun n => if everywhere then first ≤ n else n = first)
            (flags.contains 'p'), rest)

/-- A text with its escapes put in. -/
def plainText : Octets → Octets
  | [] => []
  | '\\' :: c :: rest => (if c = 'n' then '\n' else c) :: plainText rest
  | c :: rest => c :: plainText rest

/-- Reads the text that a step writes: the rest of the line, without a backslash and a line feed in
front. A backslash takes the line feed behind it into the text. -/
def readText (s : Octets) : Octets × Octets :=
  let s := match skipSpaces s with
    | '\\' :: '\n' :: rest => rest
    | '\\' :: rest => skipSpaces rest
    | s => s
  let (text, rest) := upToLineEnd s
  (text ++ ['\n'], rest)
where
  /-- The text up to the end of the line. -/
  upToLineEnd : Octets → Octets × Octets
    | [] => ([], [])
    | '\n' :: rest => ([], '\n' :: rest)
    | '\\' :: c :: rest =>
      let (s, rest) := upToLineEnd rest
      (c :: s, rest)
    | c :: rest =>
      let (s, rest) := upToLineEnd rest
      (c :: s, rest)

/-- Reads what a step does, and what stands behind it. -/
def readEdit (isExtended : Bool) (s : Octets) : Except EditFault (Edit × Octets) :=
  match s with
  | [] => .error (0, "missing command")
  | 'p' :: rest => .ok (.print, rest)
  | '=' :: rest => .ok (.printNumber, rest)
  | 'd' :: rest => .ok (.delete, rest)
  | 'q' :: rest =>
    let (status, rest) := readNumber (skipSpaces rest)
    .ok (.quit status, rest)
  | 's' :: rest => readReplacement isExtended rest
  | 'y' :: mark :: rest =>
    match upToMark? mark rest with
    | none => .error (0, "unterminated \x60y' command")
    | some (characters, rest) =>
      match upToMark? mark rest with
      | none => .error (0, "unterminated \x60y' command")
      | some (images, rest) =>
        let characters := plainText characters
        let images := plainText images
        if characters.length = images.length then .ok (.exchange characters images, rest)
        else .error (rest.length, "strings for \x60y' command are different lengths")
  | c :: rest =>
    if "aic".toList.contains c then
      if rest.isEmpty then .error (0, "expected \\ after \x60a', \x60c' or \x60i'")
      else
        let (text, rest) := readText rest
        .ok (if c = 'a' then .append text else if c = 'i' then .insert text else .change text, rest)
    else .error (rest.length, "unknown command: \x60" ++ String.singleton c ++ "'")

/-- Reads steps with semicolons or line feeds between them. `inGroup` holds between braces, and
`total` is the length of the script. -/
def readSteps (isExtended : Bool) (total : Nat) (inGroup : Bool) :
    Nat → Octets → Except EditFault (List Step × Octets)
  | 0, s => .ok ([], s)
  | fuel + 1, s => do
    let s := s.dropWhile fun c => c = ' ' || c = '\t' || c = ';' || c = '\n'
    match s with
    | [] => if inGroup then .error (.unplaced total "unmatched \x60\x7b'") else return ([], [])
    | '#' :: rest => readSteps isExtended total inGroup fuel (rest.dropWhile (· ≠ '\n'))
    | '}' :: rest =>
      if inGroup then return ([], rest) else .error (rest.length, "unexpected \x60\x7d'")
    | s =>
      let (reach, rest) ← readReach isExtended s
      let rest := skipSpaces rest
      let isNegated := rest.head? = some '!'
      let rest := if isNegated then skipSpaces (rest.drop 1) else rest
      match rest with
      | '{' :: rest =>
        let (inner, rest) ← readSteps isExtended total true fuel rest
        let (steps, rest) ← readSteps isExtended total inGroup fuel rest
        return (⟨reach, isNegated, .group inner.length⟩ :: inner ++ steps, rest)
      | rest =>
        let (edit, rest) ← readEdit isExtended rest
        match skipSpaces rest with
        | [] =>
          if inGroup then .error (.unplaced total "unmatched \x60\x7b'")
          else return ([⟨reach, isNegated, edit⟩], [])
        | c :: rest =>
          if ";\x7d\n#".toList.contains c then
            let (steps, rest) ← readSteps isExtended total inGroup fuel (c :: rest)
            return (⟨reach, isNegated, edit⟩ :: steps, rest)
          else .error (rest.length, "extra characters after command")

/-! ## Editing -/

/-- What is written, and whether its last line has no end yet. -/
structure Written where
  text : Octets := []
  isOpen : Bool := false

/-- Writes a text that ends its line, unless `isOpen` holds. -/
def Written.add (w : Written) (s : Octets) (isOpen : Bool) : Written :=
  ⟨w.text ++ (if w.isOpen then ['\n'] else []) ++ s ++ (if isOpen then [] else ['\n']), isOpen⟩

/-- A line and where it stands. -/
structure LinePlace where
  number : Nat
  isLast : Bool
  /-- Has the line no end? -/
  isOpen : Bool

/-- Is the selector for the line? -/
def Selector.holds (s : Selector) (p : LinePlace) (line : Octets) : Bool :=
  match s with
  | .final => p.isLast
  | .line n => p.number = n
  | .every first step =>
    if step = 0 then p.number = first else first ≤ p.number && (p.number - first) % step = 0
  | .matching e => e.occursIn line
  | .behind _ => false

/-- What is known while the steps are done for a line. -/
structure Turn where
  line : Octets
  isKept : Bool := true
  /-- What is written behind the line. -/
  later : List Octets := []
  /-- The status with which the script ends, if it does. -/
  ends : Option Nat := none
  written : Written
  /-- The steps whose lines have begun and not ended, by how many steps follow them, each with the
  number of its last line if it is known. -/
  begun : List (Nat × Option Nat)

/-- Is a step for the line? `i` tells it from other steps. -/
def Turn.reaches (t : Turn) (p : LinePlace) (i : Nat) (r : Reach) : Bool × Turn :=
  match r with
  | .all => (true, t)
  | .one s => (s.holds p t.line, t)
  | .between first last =>
    let others := t.begun.filter (·.1 ≠ i)
    let ended := { t with begun := others }
    match t.begun.find? (·.1 = i) with
    | some (_, some n) => (p.number ≤ n, if n ≤ p.number then ended else t)
    | some (_, none) => (true, if last.holds p t.line then ended else t)
    | none =>
      if !first.holds p t.line then (false, t)
      else
        let goesOn (n : Option Nat) : Turn := { t with begun := (i, n) :: others }
        match last with
        | .line n => (true, if n ≤ p.number then t else goesOn (some n))
        | .behind n => (true, if n = 0 then t else goesOn (some (p.number + n)))
        | .every _ step =>
          let n := if step = 0 then p.number else (p.number + step - 1) / step * step
          (true, if n ≤ p.number then t else goesOn (some n))
        | .final | .matching _ => (true, if p.isLast then t else goesOn none)

/-- Does what a step says. -/
def Turn.apply (t : Turn) (p : LinePlace) (i : Nat) (step : Step) : Turn :=
  match step.edit with
  | .print => { t with written := t.written.add t.line p.isOpen }
  | .printNumber => { t with written := t.written.add (Octets.ofInt p.number) false }
  | .delete => { t with isKept := false, ends := t.ends <|> none }
  | .quit status => { t with ends := some status }
  | .replace e image wanted prints =>
    match e.replace? (imageOf image) wanted t.line with
    | none => t
    | some line =>
      { t with line := line, written := if prints then t.written.add line p.isOpen else t.written }
  | .exchange characters images =>
    { t with line := t.line.map fun c => images[characters.idxOf c]?.getD c }
  | .insert s => { t with written := t.written.add s.dropLast false }
  | .append s => { t with later := t.later ++ [s.dropLast] }
  | .change s =>
    let isInside := !step.isNegated && t.begun.any (·.1 = i)
    { t with
      isKept := false, written := if isInside then t.written else t.written.add s.dropLast false }
  | .group _ | .nothing => t

/-- Does the steps for a line, until one of them deletes it or ends the script. -/
def Turn.run (p : LinePlace) : Nat → List Step → Turn → Turn
  | 0, _, t => t
  | _, [], t => t
  | fuel + 1, step :: rest, t =>
    let i := rest.length
    let (reached, t) := t.reaches p i step.reach
    if reached = step.isNegated then
      Turn.run p fuel (match step.edit with
        | .group size => rest.drop size
        | _ => rest) t
    else
      let t := t.apply p i step
      if t.isKept && t.ends.isNone then Turn.run p fuel rest t else t

/-- Lets lines pass the steps; answers what is written and the status. -/
def editLines (quiet isOpen : Bool) (steps : List Step) (number : Nat)
    (begun : List (Nat × Option Nat)) (written : Written) : List Octets → Written × Nat
  | [] => (written, 0)
  | line :: rest =>
    let p : LinePlace := ⟨number, rest.isEmpty, isOpen && rest.isEmpty⟩
    let t :=
      Turn.run p (steps.length + 1) steps { line := line, written := written, begun := begun }
    let written := if t.isKept && !quiet then t.written.add t.line p.isOpen else t.written
    let written := t.later.foldl (fun w s => w.add s false) written
    match t.ends with
    | some status => (written, status)
    | none => editLines quiet isOpen steps (number + 1) t.begun written rest

/-- What an edit is asked for. -/
structure Editing where
  quiet : Bool := false
  isExtended : Bool := false
  /-- Are the files themselves changed? -/
  inPlace : Bool := false
  scripts : List Octets := []
  operands : List Octets := []

/-- Adds what the letters of options ask for. -/
def Editing.withOptions (q : Editing) (options : Octets) : Editing :=
  { q with
    quiet := q.quiet || options.contains 'n'
    isExtended := q.isExtended || options.contains 'E' || options.contains 'r'
    inPlace := q.inPlace || options.contains 'i' }

/-- Reads the arguments of an edit. The option that a script follows is the last of its argument. -/
def Editing.ofArgs : List Octets → Editing
  | [] => {}
  | ['-', '-'] :: rest => { operands := rest }
  | ('-' :: c :: options) :: rest =>
    if (c :: options).getLast? = some 'e' then
      match rest with
      | [] => {}
      | script :: rest =>
        let q := (Editing.ofArgs rest).withOptions (c :: options)
        { q with scripts := script :: q.scripts }
    else (Editing.ofArgs rest).withOptions (c :: options)
  | a :: rest =>
    let q := Editing.ofArgs rest
    { q with operands := a :: q.operands }

/-- What the steps make of a text, and the status. -/
def edited (q : Editing) (steps : List Step) (text : Octets) : Octets × Nat :=
  let isOpen := !text.isEmpty && text.getLast? ≠ some '\n'
  let (written, status) := editLines q.quiet isOpen steps 1 [] {} (bareLines text)
  (written.text, status)

/-- Changes lines by edits. -/
def editUtility (s : Setting) : Effect :=
  let q := Editing.ofArgs s.args
  let (scripts, paths) := match q.scripts, q.operands with
    | [], script :: paths => ([script], paths)
    | scripts, paths => (scripts, paths)
  if scripts.isEmpty then s.fails 1 "no script specified"
  else
    let script := ['\n'].intercalate scripts
    match readSteps q.isExtended script.length false (2 * script.length + 2) script with
    | .error (left, reason) =>
      s.fails 1 ("-e expression #1, char " ++ toString (script.length - left) ++ ": " ++ reason)
    | .ok (steps, _) =>
      let (sources, read) :=
        s.sourcesWith 2 (fun path f => "can't read " ++ path ++ ": " ++ reasonOf f) paths
      if q.inPlace then
        sources.foldl (fun (e : Effect) (path, content) =>
          match e.files.write (Octets.toText path) (Octets.toBytes (edited q steps content).1) with
          | .ok files => { e with files := files }
          | .error _ => e) read
      else
        let contents := sources.map (·.2)
        let text := (contents.dropLast.map closeLine).flatten ++ contents.getLast?.getD []
        let (out, status) := edited q steps text
        { read with out := out, status := if status = 0 then read.status else status }

end Conformance.Shell
