import Conformance.Shell.Octets

/-!
# Words of a script

A word is a list of parts: text as it stands, and parameters, commands and sums that are put in when
the word is used. What stands between quotes keeps its blanks and marks.

`stretchEnd` finds where a quote, a brace or a parenthesis that was opened is closed again; all
readers of words rest on it.
-/

namespace Conformance.Shell

/-- A part of a word. -/
inductive Part where
  | text (quoted : Bool) (s : Octets)
  /-- A parameter; `operator` says what else is done with its value, with the help of `argument`. -/
  | parameter (quoted : Bool) (name operator argument : Octets)
  /-- What a command writes. -/
  | command (quoted : Bool) (source : Octets)
  /-- The value of a sum. -/
  | sum (quoted : Bool) (source : Octets)
  deriving Repr, DecidableEq, Inhabited

/-- A word of a script. -/
abbrev Word := List Part

/-- Does the character end a word? -/
def endsWord (c : Char) : Bool := " \t\n;&|<>()".toList.contains c

/-- May the character begin a name? -/
def startsName (c : Char) : Bool := c.isAlpha || c = '_'

/-- May the character stand in a name? -/
def inName (c : Char) : Bool := c.isAlphanum || c = '_'

/-- Is the text a name? -/
def isName : Octets → Bool
  | [] => false
  | c :: rest => startsName c && rest.all inName

/-- Is the character the name of a parameter that the shell sets? -/
def isSpecial (c : Char) : Bool := "@*#?$!-".toList.contains c || c.isDigit

/-- The name of a parameter at the start of a text, and the text behind it. -/
def parameterName : Octets → Octets × Octets
  | [] => ([], [])
  | c :: rest =>
    if startsName c then (c :: rest.takeWhile inName, rest.dropWhile inName)
    else if c.isDigit then (c :: rest.takeWhile Char.isDigit, rest.dropWhile Char.isDigit)
    else if isSpecial c then ([c], rest)
    else ([], c :: rest)

/-! ## Stretches -/

/-- What was opened and is not closed where a script ends. -/
inductive Opened where
  | quote
  | backquote
  | brace
  | command
  | sum
  deriving Repr, DecidableEq

/-- Why a word has no end. -/
structure Unclosed where
  opened : Opened
  /-- How many line feeds stand right behind the name of a parameter in braces that are not closed.
  -/
  afterName : Nat := 0
  deriving Repr, DecidableEq

/-- What is missing. -/
def Unclosed.reason (u : Unclosed) : String :=
  match u.opened with
  | .quote => "Unterminated quoted string"
  | .backquote => "EOF in backquote substitution"
  | .brace => "Missing '\x7d'"
  | .command => "end of file unexpected (expecting \")\")"
  | .sum => "Missing '))'"

/-- The same for a parameter in braces whose name stands at the start of a text. -/
def Unclosed.behind (s : Octets) (u : Unclosed) : Unclosed :=
  match (parameterName s).2 with
  | '\n' :: _ => { u with afterName := u.afterName + 1 }
  | _ => u

/-- A stretch of a script that one mark opens and another one closes. -/
inductive Stretch where
  /-- Text between double quotes. -/
  | quote
  /-- A parameter in braces; single quotes mean nothing in it if it is quoted itself. -/
  | brace (quoted : Bool)
  /-- Commands in parentheses, with what is open in them, the latest first: a parenthesis, or else a
  selection, whose patterns end with parentheses that close nothing. -/
  | command (parentheses : List Bool)
  /-- A sum, with the number of its parentheses that are open. -/
  | sum (depth : Nat)

/-- What is missing if the stretch is not closed. -/
def Stretch.opened : Stretch → Opened
  | .quote | .brace true => .quote
  | .brace false => .brace
  | .command _ => .command
  | .sum _ => .sum

/-- Do single quotes mean nothing in a parameter that begins behind the brace? Patterns are read as
if they were not quoted. -/
def keepsQuotes (quoted : Bool) (s : Octets) : Bool :=
  quoted &&
    match parameterName s with
    | (_ :: _, '#' :: _) | (_ :: _, '%' :: _) => false
    | _ => true

/-- The text up to the next backquote, as it stands, and the text behind that backquote. -/
def backquoteEnd : Octets → Except Unclosed (Octets × Octets)
  | [] | ['\\'] => .error ⟨.backquote, 0⟩
  | '\\' :: c :: rest => do
    let (inner, rest) ← backquoteEnd rest
    return ('\\' :: c :: inner, rest)
  | c :: rest =>
    if c = '\x60' then .ok ([], rest)
    else do
      let (inner, rest) ← backquoteEnd rest
      return (c :: inner, rest)

/-- Does the text begin with a word, and end or go on with a character behind it that ends words? -/
def beginsWith (word : String) (s : Octets) : Bool :=
  word.toList.isPrefixOf s && ((s[word.length]?).map endsWord).getD true

/-- The text up to the mark that closes a stretch, and the text behind that mark. `start` says
whether a word begins here. -/
def stretchEnd : Nat → Stretch → Bool → Octets → Except Unclosed (Octets × Octets)
  | 0, r, _, _ => .error ⟨r.opened, 0⟩
  | _, r, _, [] => .error ⟨r.opened, 0⟩
  | fuel + 1, r, _, '\\' :: c :: rest => more fuel r false ['\\', c] rest
  | fuel + 1, r, _, '$' :: '\x7b' :: rest => do
    let quoted := match r with
      | .quote | .brace true => true
      | _ => false
    let (inner, rest) ← (stretchEnd fuel (.brace (keepsQuotes quoted rest)) false rest).mapError
      (Unclosed.behind rest)
    more fuel r false ('$' :: '\x7b' :: inner ++ ['\x7d']) rest
  | fuel + 1, r, _, '$' :: '(' :: '(' :: rest => do
    let (inner, rest) ← stretchEnd fuel (.sum 0) false rest
    more fuel r false ('$' :: '(' :: '(' :: inner ++ [')', ')']) rest
  | fuel + 1, r, _, '$' :: '(' :: rest => do
    let (inner, rest) ← stretchEnd fuel (.command []) true rest
    more fuel r false ('$' :: '(' :: inner ++ [')']) rest
  | fuel + 1, r, start, c :: rest =>
    if c = '\x60' then do
      let (inner, rest) ← backquoteEnd rest
      more fuel r false (c :: inner ++ [c]) rest
    else
      match r with
      | .quote => if c = '"' then .ok ([], rest) else more fuel r false [c] rest
      | .brace quoted =>
        if c = '\x7d' then .ok ([], rest)
        else if c = '"' || (c = '\'' && !quoted) then quotation fuel r c rest
        else more fuel r false [c] rest
      | .sum depth =>
        match c, depth, rest with
        | ')', 0, ')' :: rest => .ok ([], rest)
        | ')', depth, rest => more fuel (.sum (depth - 1)) false [c] rest
        | '(', depth, rest => more fuel (.sum (depth + 1)) false [c] rest
        | c, _, rest => more fuel r false [c] rest
      | .command opened =>
        match c, opened with
        | ')', [] => .ok ([], rest)
        | ')', true :: opened => more fuel (.command opened) true [c] rest
        | '(', opened => more fuel (.command (true :: opened)) true [c] rest
        | '"', _ | '\'', _ => quotation fuel r c rest
        | c, opened =>
          if start && c = '#' then
            more fuel r false (c :: rest.takeWhile (· ≠ '\n')) (rest.dropWhile (· ≠ '\n'))
          else if start && beginsWith "case" (c :: rest) && !rest.isEmpty then
            more fuel (.command (false :: opened)) false [c] rest
          else
            match start && beginsWith "esac" (c :: rest), opened with
            | true, false :: opened => more fuel (.command opened) false [c] rest
            | _, _ => more fuel r (endsWord c) [c] rest
where
  /-- Goes on behind a text that belongs to the stretch. -/
  more (fuel : Nat) (r : Stretch) (start : Bool) (text rest : Octets) :
      Except Unclosed (Octets × Octets) := do
    let (inner, rest) ← stretchEnd fuel r start rest
    return (text ++ inner, rest)
  /-- Goes on behind a text in quotes. -/
  quotation (fuel : Nat) (r : Stretch) (quote : Char) (rest : Octets) :
      Except Unclosed (Octets × Octets) :=
    if quote = '"' then do
      let (inner, rest) ← stretchEnd fuel .quote false rest
      more fuel r false (quote :: inner ++ [quote]) rest
    else
      match rest.dropWhile (· ≠ quote) with
      | [] => .error ⟨.quote, 0⟩
      | _ :: behind => more fuel r false (quote :: rest.takeWhile (· ≠ quote) ++ [quote]) behind

/-! ## Parts -/

/-- A text from between backquotes, in which a backslash before a backquote, a dollar sign or
another backslash is left out, and within double quotes one before a double quote. -/
def backquoted (quoted : Bool) : Octets → Octets
  | '\\' :: c :: rest =>
    if c = '\x60' || c = '$' || c = '\\' || (quoted && c = '"') then c :: backquoted quoted rest
    else '\\' :: c :: backquoted quoted rest
  | c :: rest => c :: backquoted quoted rest
  | [] => []

/-- The operators of a parameter in braces, longer ones first. -/
def parameterOperators : List Octets :=
  [":-", ":=", ":+", ":?", "##", "%%", "#", "%", "-", "=", "+", "?"].map String.toList

/-- The operator of a parameter in braces that makes no sense. -/
def badOperator : Octets := "bad".toList

/-- The parameter that the text between braces stands for. -/
def bracedParameter (quoted : Bool) (s : Octets) : Part :=
  match s with
  | '#' :: c :: rest =>
    let (name, rest) := parameterName (c :: rest)
    .parameter quoted name (if rest.isEmpty then "#length".toList else badOperator) []
  | s =>
    let (name, rest) := parameterName s
    if name.isEmpty then .parameter quoted [] badOperator []
    else if rest.isEmpty then .parameter quoted name [] []
    else
      match parameterOperators.find? (·.isPrefixOf rest) with
      | some op => .parameter quoted name op (rest.drop op.length)
      | none => .parameter quoted name badOperator []

/-- The part behind a dollar sign, and the text behind that. -/
def dollarPart (quoted : Bool) (s : Octets) : Except Unclosed (Part × Octets) :=
  match s with
  | '(' :: '(' :: rest => do
    let (inner, rest) ← stretchEnd (rest.length + 1) (.sum 0) false rest
    return (.sum quoted inner, rest)
  | '(' :: rest => do
    let (inner, rest) ← stretchEnd (rest.length + 1) (.command []) true rest
    return (.command quoted inner, rest)
  | '\x7b' :: rest => do
    let (inner, rest) ← (stretchEnd (rest.length + 1) (.brace (keepsQuotes quoted rest)) false
      rest).mapError (Unclosed.behind rest)
    return (bracedParameter quoted inner, rest)
  | c :: rest =>
    if startsName c then
      let (name, rest) := parameterName (c :: rest)
      .ok (.parameter quoted name [] [], rest)
    else if isSpecial c then .ok (.parameter quoted [c] [] [], rest)
    else .ok (.text quoted ['$'], c :: rest)
  | [] => .ok (.text quoted ['$'], [])

/-- The part behind a backquote, and the text behind that. -/
def backquotePart (quoted : Bool) (s : Octets) : Except Unclosed (Part × Octets) := do
  let (inner, rest) ← backquoteEnd s
  return (.command quoted (backquoted quoted inner), rest)

/-- Puts text in front of a word. -/
def Word.addText (quoted : Bool) (s : Octets) : Word → Word
  | .text q t :: parts =>
    if q = quoted then .text q (s ++ t) :: parts else .text quoted s :: .text q t :: parts
  | parts => .text quoted s :: parts

/-- How text between double quotes is read. -/
inductive Quotation where
  /-- A double quote ends it. -/
  | closed
  /-- It is a whole text, in which double quotes stand for themselves. -/
  | whole
  /-- It is the argument of a parameter, in which double quotes are left out. -/
  | argument
  deriving Repr, DecidableEq

/-- Is a backslash before the character left out between double quotes? -/
def Quotation.escapes (q : Quotation) (c : Char) : Bool :=
  c = '$' || c = '\\' || c = '\x60' || (c = '"' && q ≠ .whole) || (c = '\x7d' && q = .argument)

/-- Reads the parts between double quotes, and the text behind the closing one. -/
def doubleQuoted (q : Quotation) : Nat → Octets → Except Unclosed (Word × Octets)
  | 0, _ | _, [] => if q = .closed then .error ⟨.quote, 0⟩ else .ok ([], [])
  | fuel + 1, '\\' :: c :: rest => do
    let (parts, behind) ← doubleQuoted q fuel rest
    let s := if c = '\n' then [] else if q.escapes c then [c] else ['\\', c]
    return (parts.addText true s, behind)
  | fuel + 1, '$' :: rest => do
    let (part, rest) ← dollarPart true rest
    let (parts, behind) ← doubleQuoted q fuel rest
    return (part :: parts, behind)
  | fuel + 1, c :: rest => do
    if c = '"' && q = .closed then return ([], rest)
    else if c = '"' && q = .argument then doubleQuoted q fuel rest
    else if c = '\x60' then
      let (part, rest) ← backquotePart true rest
      let (parts, behind) ← doubleQuoted q fuel rest
      return (part :: parts, behind)
    else
      let (parts, behind) ← doubleQuoted q fuel rest
      return (parts.addText true [c], behind)

/-- Reads parts up to a character that ends them, and the text behind. -/
def readParts (ends : Char → Bool) : Nat → Octets → Except Unclosed (Word × Octets)
  | 0, s => .ok ([], s)
  | _, [] => .ok ([], [])
  | fuel + 1, '\\' :: '\n' :: rest => readParts ends fuel rest
  | fuel + 1, '\\' :: c :: rest => do
    let (parts, behind) ← readParts ends fuel rest
    return (parts.addText true [c], behind)
  | fuel + 1, '"' :: rest => do
    let (inner, rest) ← doubleQuoted .closed (rest.length + 1) rest
    let (parts, behind) ← readParts ends fuel rest
    return ((if inner.isEmpty then [.text true []] else inner) ++ parts, behind)
  | fuel + 1, '\'' :: rest =>
    match rest.dropWhile (· ≠ '\'') with
    | [] => .error ⟨.quote, 0⟩
    | _ :: behind => do
      let (parts, behind) ← readParts ends fuel behind
      return (parts.addText true (rest.takeWhile (· ≠ '\'')), behind)
  | fuel + 1, '$' :: rest => do
    let (part, rest) ← dollarPart false rest
    let (parts, behind) ← readParts ends fuel rest
    return (part :: parts, behind)
  | fuel + 1, c :: rest =>
    if ends c then .ok ([], c :: rest)
    else if c = '\x60' then do
      let (part, rest) ← backquotePart false rest
      let (parts, behind) ← readParts ends fuel rest
      return (part :: parts, behind)
    else do
      let (parts, behind) ← readParts ends fuel rest
      return (parts.addText false [c], behind)

/-- Reads a word, and the text behind it. -/
def readWord (s : Octets) : Except Unclosed (Word × Octets) := readParts endsWord (s.length + 1) s

/-- The word that a whole text between double quotes is. -/
def quotedWord (q : Quotation) (s : Octets) : Word :=
  match doubleQuoted q (s.length + 1) s with
  | .ok (w, _) => w
  | .error _ => [.text true s]

/-- The word that the argument of a parameter is. -/
def argumentWord (quoted : Bool) (s : Octets) : Word :=
  if quoted then quotedWord .argument s
  else
    match readParts (fun _ => false) (s.length + 1) s with
    | .ok (w, _) => w
    | .error _ => [.text true s]

namespace Word

/-- Is a command run when the word is used? -/
def runsCommand (w : Word) : Bool := w.any fun p =>
  match p with
  | .command .. => true
  | _ => false

/-- The text of a word that holds nothing but text without quotes. -/
def bare? : Word → Option Octets
  | [.text false s] => some s
  | _ => none

/-- What stands in a word, without its quotes. -/
def plain (w : Word) : Octets := w.flatMap fun p =>
  match p with
  | .text _ s => s
  | _ => []

/-- Has the word a quoted part? -/
def hasQuotes (w : Word) : Bool := w.any fun p =>
  match p with
  | .text q _ => q
  | _ => false

end Word

end Conformance.Shell
