import Conformance.Shell.Word

/-!
# Commands of a script

A script is a command: one program with its words, or commands joined by pipes, conditions and
loops. `Script.ofSource` reads a script. Where a script breaks the grammar, its lines before that
can still be run, and a fault says what stands there.
-/

namespace Conformance.Shell

/-- What a redirection does with its channel. -/
inductive Redirection.Kind where
  | input
  | output
  | append
  /-- The channel becomes the one that the word names. -/
  | duplicate
  /-- The word is the input. -/
  | here
  deriving Repr, DecidableEq

/-- A channel of a program and where it leads instead. -/
structure Redirection where
  channel : Nat
  kind : Redirection.Kind
  word : Word
  deriving Repr, DecidableEq

/-- A program with its words. -/
structure Simple where
  line : Nat
  assignments : List (Octets × Word)
  words : List Word
  redirections : List Redirection
  deriving Repr, DecidableEq

/-- A command. -/
inductive Command where
  | skip
  | simple (s : Simple)
  | pipe (left right : Command)
  | negate (c : Command)
  /-- The second only if the first succeeds. -/
  | both (left right : Command)
  /-- The second only if the first fails. -/
  | either (left right : Command)
  | seq (left right : Command)
  | condition (test yes no : Command)
  /-- The body as long as the test ends as `wanted`. -/
  | loop (wanted : Bool) (test body : Command)
  /-- The body for each of the words, or for each argument of the script. -/
  | each (name : Octets) (words : Option (List Word)) (body : Command)
  /-- The first branch with a pattern for the word. -/
  | select (word : Word) (branches : List (List Word × Command))
  | group (body : Command) (redirections : List Redirection)
  | subshell (body : Command)
  /-- The script does not wait for the end of the command. -/
  | detached (body : Command)
  | define (name : Octets) (body : Command)
  deriving Repr, Inhabited

/-! ## Tokens -/

/-- A token of a script. -/
inductive Token where
  | word (line : Nat) (w : Word)
  | operator (s : String)
  /-- The channel that the redirection behind it is for. -/
  | channel (n : Nat)
  /-- A text that stands in the script itself. -/
  | here (text : Word)
  | newline
  /-- What cannot be read, and why. -/
  | broken (reason : String)
  deriving Repr, DecidableEq

/-- The operators, longer ones first. -/
def operators : List String :=
  ["<<-", "&&", "||", ";;", "<<", ">>", "<&", ">&", ">|", ";", "&", "|", "<", ">", "(", ")"]

/-- The operator at the start of a text. -/
def operatorAt? (s : Octets) : Option String := operators.find? fun o => o.toList.isPrefixOf s

/-- A text that stands in the script from the next line on, as it is announced. -/
structure Announcement where
  /-- The line behind the text. -/
  mark : Octets
  /-- Is nothing put into the text? -/
  isLiteral : Bool
  /-- Are tabs at the start of a line left out? -/
  dropsTabs : Bool

/-- The lines of a text up to the announced mark, and the text behind that line. -/
def Announcement.lines (a : Announcement) : Nat → Octets → Octets × Octets
  | 0, s => ([], s)
  | _, [] => ([], [])
  | fuel + 1, s =>
    let line := s.takeWhile (· ≠ '\n')
    let line := if a.dropsTabs then line.dropWhile (· = '\t') else line
    let rest := (s.dropWhile (· ≠ '\n')).drop 1
    if line = a.mark then ([], rest)
    else
      let (text, behind) := a.lines fuel rest
      (line ++ '\n' :: text, behind)

/-- Reads the texts that stand in the script from the next line on, in the order of their
announcements. -/
def announcedTexts : List Announcement → Octets → List Word × Octets
  | [], s => ([], s)
  | a :: rest, s =>
    let (text, s) := a.lines (s.length + 1) s
    let (words, s) := announcedTexts rest s
    ((if a.isLiteral then [.text true text] else quotedWord .whole text) :: words, s)

/-- Puts texts of the script behind the operators that announced them. -/
def fillHere : List (Nat × Token) → List Word → List (Nat × Token)
  | [], _ => []
  | (line, .here _) :: rest, w :: ws => (line, .here w) :: fillHere rest ws
  | t :: rest, ws => t :: fillHere rest ws

/-- How many line feeds a text holds. -/
def lineFeeds (s : Octets) : Nat := s.count '\n'

/-- Reads the tokens of a script, each with the line in which it ends. `pending` are the
announcements of texts that stand from the next line on, the latest first. -/
def tokens : Nat → Nat → List Announcement → Octets → List (Nat × Token) × List Word
  | 0, _, _, _ => ([], [])
  | _, _, _, [] => ([], [])
  | fuel + 1, line, pending, '\\' :: '\n' :: rest => tokens fuel (line + 1) pending rest
  | fuel + 1, line, pending, c :: rest =>
    let stop (s : Octets) (u : Unclosed) : List (Nat × Token) × List Word :=
      ([(line + lineFeeds s - u.afterName, .broken u.reason)], [])
    if c = ' ' || c = '\t' then tokens fuel line pending rest
    else if c = '#' then tokens fuel line pending (rest.dropWhile (· ≠ '\n'))
    else if c = '\n' then
      let (texts, behind) := announcedTexts pending.reverse rest
      let read := rest.length - behind.length
      let (ts, ws) := tokens fuel (line + 1 + lineFeeds (rest.take read)) [] behind
      ((line + 1, .newline) :: ts, texts ++ ws)
    else
      match operatorAt? (c :: rest) with
      | some o =>
        let rest := rest.drop (o.length - 1)
        let blankless := rest.dropWhile fun c => c = ' ' || c = '\t'
        match o = "<<" || o = "<<-", readWord blankless with
        | true, .error u => stop blankless u
        | true, .ok (p :: w, behind) =>
          let a : Announcement := ⟨Word.plain (p :: w), Word.hasQuotes (p :: w), o = "<<-"⟩
          let (ts, ws) := tokens fuel line (a :: pending) behind
          ((line, .here []) :: ts, ws)
        | _, _ =>
          let (ts, ws) := tokens fuel line pending rest
          ((line, .operator o) :: ts, ws)
      | none =>
        match readWord (c :: rest) with
        | .error u => stop (c :: rest) u
        | .ok (w, behind) =>
          let read := (c :: rest).length - behind.length
          let after := line + lineFeeds ((c :: rest).take read)
          let (ts, ws) := tokens fuel after pending behind
          let channel? := match w.bare?, behind.head? with
            | some [d], some c =>
              if d.isDigit && (c = '<' || c = '>') then some (d.toNat - 48) else none
            | _, _ => none
          match channel? with
          | some n => ((after, .channel n) :: ts, ws)
          | none => ((after, .word line w) :: ts, ws)

/-! ## Grammar -/

/-- Where a script breaks the grammar: the tokens from there on, and what should have stood there,
or a reason in words. -/
structure Misfit where
  rest : List Token
  expected : Option String := none
  reason : Option String := none

/-- The words that have a meaning in the grammar. -/
def reservedWords : List String :=
  ["!", "case", "do", "done", "elif", "else", "esac", "fi", "for", "if", "in", "then", "until",
    "while", "\x7b", "\x7d"]

/-- The words that end a list of commands. -/
def closers : List String := ["then", "else", "elif", "fi", "do", "done", "esac", "\x7d"]

/-- The word as a reserved word. -/
def Token.reserved? : Token → Option String
  | .word _ w => ((Word.bare? w).map String.ofList).filter reservedWords.contains
  | _ => none

/-- Does the token end a list of commands? -/
def Token.endsList (t : Token) : Bool :=
  t = .operator ")" || t = .operator ";;" || (t.reserved?.map closers.contains).getD false

/-- What a token is called in complaints. -/
def Token.called : Token → String
  | .newline => "newline"
  | .operator o =>
    if ["<", ">", "<<", "<<-", ">>", "<&", ">&", ">|"].contains o then "redirection"
    else "\"" ++ o ++ "\""
  | .channel _ | .here _ => "redirection"
  | .broken reason => reason
  | .word n w =>
    match Token.reserved? (.word n w) with
    | some s => "\"" ++ s ++ "\""
    | none => "word"

/-- The complaint about a script. -/
def Misfit.message (m : Misfit) : String :=
  match m.reason, m.rest with
  | some reason, _ => reason
  | none, .broken reason :: _ => reason
  | none, rest =>
    (match rest with
      | [] => "end of file"
      | t :: _ => t.called) ++ " unexpected" ++
      (match m.expected with
        | some e => " (expecting " ++ e ++ ")"
        | none => "")

/-- The text behind line feeds. -/
def skipNewlines (ts : List Token) : List Token := ts.dropWhile (· = .newline)

/-- The text behind the given reserved word, if it is there. -/
def wordAt? (s : String) : List Token → Option (List Token)
  | t :: rest => if t.reserved? = some s then some rest else none
  | [] => none

/-- Reads the given reserved word. -/
def expectWord (s : String) (ts : List Token) : Except Misfit (List Token) :=
  match wordAt? s ts with
  | some rest => .ok rest
  | none => .error ⟨ts, some ("\"" ++ s ++ "\""), none⟩

/-- The text behind the given operator, if it is there. -/
def operatorBehind? (s : String) : List Token → Option (List Token)
  | .operator o :: rest => if o = s then some rest else none
  | _ => none

/-- Reads the given operator. -/
def expectOperator (s : String) (ts : List Token) : Except Misfit (List Token) :=
  match operatorBehind? s ts with
  | some rest => .ok rest
  | none => .error ⟨ts, some ("\"" ++ s ++ "\""), none⟩

/-- The channel and the kind of an operator that redirects. -/
def redirectionKind? : String → Option (Nat × Redirection.Kind)
  | "<" => some (0, .input)
  | ">" | ">|" => some (1, .output)
  | ">>" => some (1, .append)
  | ">&" => some (1, .duplicate)
  | "<&" => some (0, .duplicate)
  | _ => none

/-- Reads a redirection, if one is there. -/
def redirection? : List Token → Except Misfit (Option (Redirection × List Token))
  | .channel n :: .here w :: rest => .ok (some (⟨n, .here, w⟩, rest))
  | .here w :: rest => .ok (some (⟨0, .here, w⟩, rest))
  | .channel n :: .operator o :: rest => to? (some n) o rest
  | .operator o :: rest => to? none o rest
  | _ => .ok none
where
  /-- Reads the word behind an operator that redirects. -/
  to? (channel : Option Nat) (o : String) (rest : List Token) :
      Except Misfit (Option (Redirection × List Token)) :=
    match redirectionKind? o, rest with
    | some (n, k), .word _ w :: rest => .ok (some (⟨channel.getD n, k, w⟩, rest))
    | some _, rest => .error ⟨rest, none, none⟩
    | none, rest => if o = "<<" || o = "<<-" then .error ⟨rest, none, none⟩ else .ok none

/-- Reads redirections. -/
def redirections : Nat → List Token → Except Misfit (List Redirection × List Token)
  | 0, ts => .ok ([], ts)
  | fuel + 1, ts => do
    match ← redirection? ts with
    | some (r, rest) =>
      let (rs, rest) ← redirections fuel rest
      return (r :: rs, rest)
    | none => return ([], ts)

/-- The assignment that a word is. -/
def assignment? : Word → Option (Octets × Word)
  | .text false s :: parts =>
    let name := s.takeWhile (· ≠ '=')
    match s.dropWhile (· ≠ '=') with
    | '=' :: value =>
      if isName name then some (name, if value.isEmpty then parts else .text false value :: parts)
      else none
    | _ => none
  | _ => none

/-- Reads the words of a program behind those in `s`. -/
def simpleRest : Nat → Simple → List Token → Except Misfit (Simple × List Token)
  | 0, s, ts => .ok (s, ts)
  | fuel + 1, s, ts => do
    match ← redirection? ts with
    | some (r, rest) => simpleRest fuel { s with redirections := s.redirections ++ [r] } rest
    | none =>
      match ts with
      | .word _ w :: rest =>
        match if s.words.isEmpty then assignment? w else none with
        | some a => simpleRest fuel { s with assignments := s.assignments ++ [a] } rest
        | none => simpleRest fuel { s with words := s.words ++ [w] } rest
      | ts => return (s, ts)

/-- The words up to the end of a line or a semicolon. -/
def wordsOf : List Token → List Word × List Token
  | .word _ w :: rest =>
    let (ws, rest) := wordsOf rest
    (w :: ws, rest)
  | ts => ([], ts)

/-- Reads the patterns of a branch. What stands where a parenthesis should close them counts as a
word, even if it has a meaning elsewhere. -/
def patternsOf : List Token → Except Misfit (List Word × List Token)
  | [] => .error ⟨[], some "\")\"", none⟩
  | p :: rest =>
    let w := match p with
      | .word _ w => w
      | _ => []
    match rest with
    | .operator "|" :: rest => do
      let (ws, rest) ← patternsOf rest
      return (w :: ws, rest)
    | .operator ")" :: rest => .ok ([w], rest)
    | .word n x :: rest =>
      .error ⟨.word n x :: rest, none, some "word unexpected (expecting \")\")"⟩
    | rest => .error ⟨rest, some "\")\"", none⟩

/-- Special programs of the shell: no function has one of their names, assignments in front of them
stay, and the script ends where they fail. -/
def specialPrograms : List String :=
  [".", ":", "break", "continue", "eval", "exec", "exit", "export", "local", "readonly", "return",
    "set", "shift", "times", "trap", "unset"]

mutual

/-- Reads commands up to a token that ends them. -/
def readList : Nat → Bool → List Token → Except Misfit (Command × List Token)
  | 0, _, ts => .error ⟨ts, none, none⟩
  | fuel + 1, mayEnd, ts => do
    let ts := skipNewlines ts
    match ts with
    | [] => return (.skip, [])
    | t :: _ =>
      if mayEnd && t.endsList then return (.skip, ts)
      else
        let (c, ts) ← readConditions fuel ts
        match ts with
        | .operator ";" :: rest | .newline :: rest =>
          let (d, rest) ← readList fuel true rest
          return (.seq c d, rest)
        | .operator "&" :: rest =>
          let (d, rest) ← readList fuel true rest
          return (.seq (.detached c) d, rest)
        | ts => return (c, ts)

/-- Reads commands joined by conditions. -/
def readConditions : Nat → List Token → Except Misfit (Command × List Token)
  | 0, ts => .error ⟨ts, none, none⟩
  | fuel + 1, ts => do
    let (c, ts) ← readPipeline fuel ts
    moreConditions fuel c ts

/-- Reads on behind a first command. -/
def moreConditions : Nat → Command → List Token → Except Misfit (Command × List Token)
  | 0, _, ts => .error ⟨ts, none, none⟩
  | fuel + 1, c, .operator "&&" :: rest => do
    let (d, rest) ← readPipeline fuel (skipNewlines rest)
    moreConditions fuel (.both c d) rest
  | fuel + 1, c, .operator "||" :: rest => do
    let (d, rest) ← readPipeline fuel (skipNewlines rest)
    moreConditions fuel (.either c d) rest
  | _, c, ts => .ok (c, ts)

/-- Reads commands joined by pipes, or their opposite. -/
def readPipeline : Nat → List Token → Except Misfit (Command × List Token)
  | 0, ts => .error ⟨ts, none, none⟩
  | fuel + 1, ts =>
    match wordAt? "!" ts with
    | some rest => do
      let (c, rest) ← readPipes fuel rest
      return (.negate c, rest)
    | none => readPipes fuel ts

/-- Reads commands of which each writes into the next one. -/
def readPipes : Nat → List Token → Except Misfit (Command × List Token)
  | 0, ts => .error ⟨ts, none, none⟩
  | fuel + 1, ts => do
    let (c, ts) ← readCommand fuel ts
    match ts with
    | .operator "|" :: rest =>
      let (d, rest) ← readPipes fuel (skipNewlines rest)
      return (.pipe c d, rest)
    | ts => return (c, ts)

/-- Reads one command with its redirections. -/
def readCommand : Nat → List Token → Except Misfit (Command × List Token)
  | 0, ts => .error ⟨ts, none, none⟩
  | fuel + 1, ts =>
    match ts with
    | .operator "(" :: rest => do
      let (c, rest) ← readList fuel false rest
      redirected (.subshell c) (← expectOperator ")" rest)
    | .word line w :: rest =>
      match Token.reserved? (.word line w) with
      | some "\x7b" => do
        let (c, rest) ← readList fuel false rest
        redirected c (← expectWord "\x7d" rest)
      | some "if" => do
        let (c, rest) ← readIf fuel rest
        redirected c rest
      | some "while" => do
        let (test, rest) ← readList fuel false rest
        let (body, rest) ← readList fuel false (← expectWord "do" rest)
        redirected (.loop true test body) (← expectWord "done" rest)
      | some "until" => do
        let (test, rest) ← readList fuel false rest
        let (body, rest) ← readList fuel false (← expectWord "do" rest)
        redirected (.loop false test body) (← expectWord "done" rest)
      | some "for" => do
        let ((name, words), rest) ← eachHead rest
        let (body, rest) ← readList fuel false (← expectWord "do" rest)
        redirected (.each name words body) (← expectWord "done" rest)
      | some "case" =>
        match rest with
        | .word _ subject :: rest => do
          let rest ← expectWord "in" (skipNewlines rest)
          let (branches, rest) ← readBranches fuel rest
          redirected (.select subject branches) rest
        | rest => .error ⟨rest, some "word", none⟩
      | some _ => .error ⟨.word line w :: rest, none, none⟩
      | none =>
        match rest with
        | .operator "(" :: behind => do
          if (assignment? w).isSome then throw ⟨rest, none, none⟩
          let rest ← closed behind
          match (w.bare?).filter fun s =>
              isName s && !specialPrograms.contains (String.ofList s) with
          | some name =>
            let (c, rest) ← readCommand fuel (skipNewlines rest)
            return (.define name c, rest)
          | none => .error ⟨rest, none, some "Bad function name"⟩
        | rest => program (.word line w :: rest)
    | ts => do
      match ← redirection? ts with
      | some _ => program ts
      | none => .error ⟨ts, none, none⟩
where
  /-- Reads the parenthesis that closes the one behind the name of a function. -/
  closed (ts : List Token) : Except Misfit (List Token) :=
    match ts with
    | .word .. :: _ => .error ⟨ts, none, some "word unexpected (expecting \")\")"⟩
    | ts => expectOperator ")" ts
  /-- Reads a program with its words. -/
  program (ts : List Token) : Except Misfit (Command × List Token) := do
    let line := (ts.findSome? fun t => match t with
      | .word n _ => some n
      | _ => none).getD 1
    let (s, rest) ← simpleRest (ts.length + 1) ⟨line, [], [], []⟩ ts
    return (.simple s, rest)
  /-- Reads the redirections of a command that is not one program. -/
  redirected (c : Command) (ts : List Token) : Except Misfit (Command × List Token) := do
    let (rs, rest) ← redirections (ts.length + 1) ts
    return (if rs.isEmpty then c else .group c rs, rest)
  /-- Reads the name and the words of a loop over words. -/
  eachHead (ts : List Token) : Except Misfit ((Octets × Option (List Word)) × List Token) :=
    match ts with
    | .word _ w :: rest =>
      match (Word.bare? w).filter isName with
      | none => .error ⟨ts, none, some "Bad for loop variable"⟩
      | some name =>
        match wordAt? "in" (skipNewlines rest) with
        | some rest =>
          let (ws, rest) := wordsOf rest
          match rest with
          | .operator ";" :: rest | .newline :: rest => .ok ((name, some ws), skipNewlines rest)
          | rest => .error ⟨rest, none, none⟩
        | none =>
          .ok ((name, none), match rest with
            | .operator ";" :: rest => skipNewlines rest
            | rest => skipNewlines rest)
    | ts => .error ⟨ts, none, some "Bad for loop variable"⟩

/-- Reads a condition from behind its first word. -/
def readIf : Nat → List Token → Except Misfit (Command × List Token)
  | 0, ts => .error ⟨ts, none, none⟩
  | fuel + 1, ts => do
    let (test, ts) ← readList fuel false ts
    let (yes, ts) ← readList fuel false (← expectWord "then" ts)
    match wordAt? "elif" ts with
    | some rest =>
      let (no, rest) ← readIf fuel rest
      return (.condition test yes no, rest)
    | none =>
      match wordAt? "else" ts with
      | some rest =>
        let (no, rest) ← readList fuel false rest
        return (.condition test yes no, ← expectWord "fi" rest)
      | none => return (.condition test yes .skip, ← expectWord "fi" ts)

/-- Reads the branches of a selection. -/
def readBranches : Nat → List Token → Except Misfit (List (List Word × Command) × List Token)
  | 0, ts => .error ⟨ts, none, none⟩
  | fuel + 1, ts =>
    let ts := skipNewlines ts
    match wordAt? "esac" ts with
    | some rest => .ok ([], rest)
    | none => do
      let ts := (operatorBehind? "(" ts).getD ts
      let (patterns, ts) ← patternsOf ts
      let (body, ts) ← readList fuel true ts
      let ts := skipNewlines ts
      match wordAt? "esac" ts with
      | some rest => return ([(patterns, body)], rest)
      | none =>
        let (branches, rest) ← readBranches fuel (← expectOperator ";;" ts)
        return ((patterns, body) :: branches, rest)

end

/-! ## Scripts -/

/-- Reads the commands of a line. -/
def readLine? : Nat → List Token → Except Misfit (Command × List Token)
  | 0, ts => .error ⟨ts, none, none⟩
  | fuel + 1, ts => do
    let (c, ts) ← readConditions (8 * ts.length + 16) ts
    match ts with
    | [] => return (c, [])
    | .newline :: rest => return (c, rest)
    | .operator o :: rest =>
      if o ≠ ";" && o ≠ "&" then throw ⟨ts, none, none⟩
      let c := if o = "&" then .detached c else c
      match rest with
      | [] => return (c, [])
      | .newline :: rest => return (c, rest)
      | rest =>
        let (d, rest) ← readLine? fuel rest
        return (.seq c d, rest)
    | ts => .error ⟨ts, none, none⟩

/-- Reads lines of commands up to one that breaks the grammar. -/
def readLines : Nat → List Token → Command × Option Misfit
  | 0, _ => (.skip, none)
  | fuel + 1, ts =>
    match skipNewlines ts with
    | [] => (.skip, none)
    | ts =>
      match readLine? (ts.length + 1) ts with
      | .error m => (.skip, some m)
      | .ok (c, rest) =>
        let (d, m) := readLines fuel rest
        (.seq c d, m)

/-- What is wrong with a command that stands in a word. -/
def wordFault? : Nat → Word → Option String
  | 0, _ => none
  | fuel + 1, w => w.findSome? fun part =>
    match part with
    | .command _ source =>
      let (pairs, texts) := tokens (source.length + 1) 1 [] source
      let ts := ((fillHere pairs texts).map (·.2)).map fun t =>
        match t with
        | .word _ w => ((wordFault? fuel w).map Token.broken).getD t
        | t => t
      let ts := ts ++ [.operator ")"]
      match readList (8 * ts.length + 16) true ts with
      | .error m => some m.message
      | .ok (_, rest) =>
        match expectOperator ")" rest with
        | .error m => some m.message
        | .ok _ => none
    | _ => none

/-- A script: its commands up to the line that breaks the grammar, and the line and the reason of
that. -/
structure Script where
  command : Command
  fault : Option (Nat × String)

/-- The script that a text is. -/
def Script.ofSource (source : Octets) : Script :=
  let (pairs, texts) := tokens (source.length + 1) 1 [] source
  let pairs := (fillHere pairs texts).map fun (line, t) =>
    match t with
    | .word _ w => (line, ((wordFault? source.length w).map Token.broken).getD t)
    | t => (line, t)
  let ts := pairs.map (·.2)
  let (command, misfit) := readLines (ts.length + 1) ts
  ⟨command, misfit.map fun m =>
    let line := match (pairs.drop (ts.length - m.rest.length)).head? with
      | some (line, _) => line
      | none => 1 + lineFeeds source
    (line, "Syntax error: " ++ m.message)⟩

end Conformance.Shell
