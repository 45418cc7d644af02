import Conformance.Shell.CharacterClass
import Conformance.Shell.Format

/-!
# Expressions for lines

An expression stands for parts of lines: characters, choices, repetitions, groups whose part can be
named later on, and the ends of a line. `Expression.ends` lists where a part can end that begins at
a place, `Expression.find?` finds the first part of a line for which the expression stands, and of
those that begin there the longest. Expressions are written in two ways, which differ in what needs
a backslash.
-/

namespace Conformance.Shell

/-- An expression. -/
inductive Expression where
  | empty
  /-- One character of a class. -/
  | one (holds : Char → Bool)
  | both (first second : Expression)
  | either (first second : Expression)
  /-- So often at least, and at most if there is a bound. -/
  | repeated (e : Expression) (least : Nat) (most : Option Nat)
  /-- The part for which the expression stands can be named by the number. -/
  | group (n : Nat) (e : Expression)
  /-- The part of the group with the number once more. -/
  | same (n : Nat)
  | lineStart
  | lineEnd
  | wordStart
  | wordEnd
  /-- The start or the end of a word, or neither of them. -/
  | edge (wanted : Bool)

/-- A place in a line, with what is known there of the part that ends there. -/
structure Spot where
  /-- The character in front. -/
  before : Option Char
  rest : Octets
  /-- The parts of the groups. -/
  groups : List (Nat × Octets)

namespace Spot

/-- The place behind the next `n` characters. -/
def skip (p : Spot) (n : Nat) : Spot :=
  if n = 0 then p else { p with before := p.rest[n - 1]?, rest := p.rest.drop n }

/-- Does the character belong to a word? -/
def inWord (c : Char) : Bool := c.isAlphanum || c = '_'

/-- Is the place between two characters the first of which is in a word or not, and the second? -/
def isBetween (p : Spot) (first second : Bool) : Bool :=
  p.before.any inWord = first && p.rest.head?.any inWord = second

/-- The first of the places with each number of characters behind it. -/
def distinct (ps : List Spot) : List Spot :=
  (ps.foldl (fun (seen, kept) p =>
    let n := p.rest.length
    if seen.contains n then (seen, kept)
    else (n :: seen, p :: kept)) (([] : List Nat), [])).2.reverse

end Spot

namespace Expression

/-- Repeats a step from places to places; longer repetitions come first. A step that may be left out
has to go on. -/
def stepsFrom (step : Spot → List Spot) : Nat → Nat → Option Nat → Spot → List Spot
  | 0, least, _, p => if least = 0 then [p] else []
  | fuel + 1, least, most, p =>
    let further := if most = some 0 then [] else
      (step p).flatMap fun q =>
        if least = 0 && q.rest.length = p.rest.length then []
        else stepsFrom step fuel (least - 1) (most.map (· - 1)) q
    further ++ (if least = 0 then [p] else [])

/-- Does the expression name the part of a group once more? -/
def hasSame : Expression → Bool
  | same _ => true
  | both a b | either a b => a.hasSame || b.hasSame
  | repeated e .. | group _ e => e.hasSame
  | _ => false

/-- The places where a part can end that begins at a place, those that are preferred first. Where no
part of a group is named once more, one place of a kind is enough. -/
def ends (all : Bool) : Expression → Spot → List Spot
  | empty, p => [p]
  | one holds, p =>
    match p.rest with
    | [] => []
    | c :: _ => if holds c then [p.skip 1] else []
  | both a b, p =>
    let found := (a.ends all p).flatMap fun q => b.ends all q
    if all then found else Spot.distinct found
  | either a b, p => a.ends all p ++ b.ends all p
  | repeated e least most, p =>
    let found := stepsFrom (fun q => e.ends all q) (p.rest.length + least + 1) least most p
    if all then found else Spot.distinct found
  | group n e, p =>
    (e.ends all p).map fun q =>
      let part := p.rest.take (p.rest.length - q.rest.length)
      { q with groups := (n, part) :: q.groups.filter (·.1 ≠ n) }
  | same n, p =>
    match p.groups.find? (·.1 = n) with
    | none => []
    | some (_, part) => if part.isPrefixOf p.rest then [p.skip part.length] else []
  | lineStart, p => if p.before.isNone then [p] else []
  | lineEnd, p => if p.rest.isEmpty then [p] else []
  | wordStart, p => if p.isBetween false true then [p] else []
  | wordEnd, p => if p.isBetween true false then [p] else []
  | edge wanted, p =>
    if (p.isBetween false true || p.isBetween true false) = wanted then [p] else []

/-- A part of a line for which an expression stands. -/
structure Found where
  front : Octets
  part : Octets
  behind : Octets
  groups : List (Nat × Octets)

/-- The part of a group, or with zero the whole part. -/
def Found.group (f : Found) (n : Nat) : Octets :=
  if n = 0 then f.part else ((f.groups.find? (·.1 = n)).map (·.2)).getD []

/-- The first part of a text for which the expression stands; `before` is the character in front of
the text. -/
def find? (e : Expression) (before : Option Char) (s : Octets) : Option Found :=
  let longest := (e.ends e.hasSame ⟨before, s, []⟩).foldl (fun best q =>
    match best with
    | none => some q
    | some b => if q.rest.length < b.rest.length then some q else some b) (none : Option Spot)
  match longest, s with
  | some q, s => some ⟨[], s.take (s.length - q.rest.length), q.rest, q.groups⟩
  | none, [] => none
  | none, c :: rest => (e.find? (some c) rest).map fun f => { f with front := c :: f.front }

/-- Does the expression stand for a part of the line? -/
def occursIn (e : Expression) (line : Octets) : Bool := (e.find? none line).isSome

/-- A text in pieces: what is passed over, and behind it a part for which the expression stands. An
empty part does not follow another part at once. -/
def pieces (e : Expression) : Nat → Option Char → Bool → Octets → List (Octets × Option Found)
  | 0, _, _, s => [(s, none)]
  | fuel + 1, before, isAdjacent, s =>
    match e.find? before s with
    | none => [(s, none)]
    | some f =>
      if f.part.isEmpty then
        let here := if isAdjacent && f.front.isEmpty then [] else [(f.front, some f)]
        match f.behind with
        | [] => here
        | c :: rest => here ++ ([c], none) :: e.pieces fuel (some c) false rest
      else (f.front, some f) :: e.pieces fuel f.part.getLast? true f.behind

/-- The parts of a line for which the expression stands, one behind the other. -/
def parts (e : Expression) (line : Octets) : List Octets :=
  (e.pieces (line.length + 2) none false line).filterMap fun piece => piece.2.map (·.part)

/-- The line with those parts replaced whose numbers are wanted, counted from one; nothing if there
is no such part. -/
def replace? (e : Expression) (image : Found → Octets) (wanted : Nat → Bool) (line : Octets) :
    Option Octets :=
  let (text, count) :=
    (e.pieces (line.length + 2) none false line).foldl (fun (text, n) (kept, found) =>
    match found with
    | none => (text ++ kept, n)
    | some f =>
      (text ++ kept ++ (if wanted (n + 1) then image f else f.part), n + 1)) (([] : Octets), 0)
  if (List.range count).any fun i => wanted (i + 1) then some text else none

/-! ## Reading -/

/-- A sign of an expression. -/
inductive Sign where
  | atom (e : Expression)
  | opening
  | closing
  | bar
  /-- The sign in front so often. -/
  | times (least : Nat) (most : Option Nat)

/-- How expressions are written. -/
structure Style where
  /-- Do signs need no backslash? -/
  isExtended : Bool := false
  /-- Do capitals not count? -/
  isFolded : Bool := false

/-- The characters that a style takes for one. -/
def Style.character (st : Style) (c : Char) : Expression :=
  if st.isFolded then one fun x => x.toLower = c.toLower else one (· = c)

/-- The characters between brackets, from behind the opening one, and the text behind the closing
one. A closing bracket that comes first stands for itself. -/
def brackets? : Nat → Bool → Octets → Option ((Char → Bool) × Octets)
  | 0, _, _ | _, _, [] => none
  | fuel + 1, isFirst, c :: rest =>
    if c = ']' && !isFirst then some (fun _ => false, rest)
    else
      let name := (rest.drop 1).takeWhile (· ≠ ':')
      let behind := rest.drop (name.length + 1)
      if c = '[' && rest.head? = some ':' && [':', ']'].isPrefixOf behind then
        match characterClass? name with
        | none => none
        | some holds =>
          (brackets? fuel false (behind.drop 2)).map fun (others, rest) =>
            (fun x => holds x || others x, rest)
      else
        let (low, rest) := match c, rest with
          | '\\', 'n' :: rest => ('\n', rest)
          | '\\', 't' :: rest => ('\t', rest)
          | c, rest => (c, rest)
        match rest with
        | '-' :: high :: behind =>
          if high = ']' then
            (brackets? fuel false rest).map fun (others, rest) =>
              (fun x => x = low || others x, rest)
          else
            (brackets? fuel false behind).map fun (others, rest) =>
              (fun x => (low ≤ x && x ≤ high) || others x, rest)
        | rest => (brackets? fuel false rest).map fun (others, rest) =>
          (fun x => x = low || others x, rest)

/-- The bounds of a repetition, and the text behind the sign that closes them. -/
def bounds? (closing : Octets) (s : Octets) : Option (Sign × Octets) :=
  let low := s.takeWhile Char.isDigit
  let number (s : Octets) : Nat := s.foldl (fun n c => 10 * n + (c.toNat - 48)) 0
  let close (sign : Sign) (s : Octets) : Option (Sign × Octets) :=
    if closing.isPrefixOf s then some (sign, s.drop closing.length) else none
  match s.drop low.length with
  | ',' :: rest =>
    let high := rest.takeWhile Char.isDigit
    close (.times (number low) (if high.isEmpty then none else some (number high)))
      (rest.drop high.length)
  | rest => if low.isEmpty then none else close (.times (number low) (some (number low))) rest

/-- What a character behind a backslash stands for, in either style. -/
def escaped (st : Style) (c : Char) : Expression :=
  match c with
  | 'n' => one (· = '\n')
  | 't' => one (· = '\t')
  | 'w' => one Spot.inWord
  | 'W' => one fun c => !Spot.inWord c
  | 's' => one fun c => c = ' ' || ('\t' ≤ c && c ≤ '\r')
  | 'S' => one fun c => !(c = ' ' || ('\t' ≤ c && c ≤ '\r'))
  | '<' => wordStart
  | '>' => wordEnd
  | 'b' => edge true
  | 'B' => edge false
  | '\x60' => lineStart
  | '\'' => lineEnd
  | c => if '1' ≤ c && c ≤ '9' then same (c.toNat - 48) else st.character c

/-- The signs of an expression. `isFirst` holds at the start of a choice. -/
def signs (st : Style) : Nat → Bool → Octets → Except String (List Sign)
  | 0, _, _ | _, _, [] => .ok []
  | fuel + 1, isFirst, c :: rest =>
    let add (sign : Sign) (rest : Octets) : Except String (List Sign) :=
      (signs st fuel (match sign with
        | .opening | .bar | .atom lineStart => true
        | _ => false) rest).map (sign :: ·)
    let special (c : Char) (rest : Octets) : Option (Except String (List Sign)) :=
      match c with
      | '(' => some (add .opening rest)
      | ')' => some (add .closing rest)
      | '|' => some (add .bar rest)
      | '+' => if isFirst then none else some (add (.times 1 none) rest)
      | '?' => if isFirst then none else some (add (.times 0 (some 1)) rest)
      | '{' =>
        if isFirst then none
        else
          match bounds? (if st.isExtended then ['}'] else ['\\', '}']) rest with
          | some (sign, rest) => some (add sign rest)
          | none => if st.isExtended then none else some (.error "Unmatched \\\x7b")
      | _ => none
    let atEnd : Bool := rest.isEmpty || (!st.isExtended
      && (['\\', ')'].isPrefixOf rest || ['\\', '|'].isPrefixOf rest))
    match c with
    | '\\' =>
      match rest with
      | [] => .error "Trailing backslash"
      | d :: rest =>
        (if st.isExtended then none else special d rest).getD (add (.atom (escaped st d)) rest)
    | '[' =>
      let (negated, inner) := match rest with
        | '^' :: inner => (true, inner)
        | inner => (false, inner)
      match brackets? (inner.length + 1) true inner with
      | none => .error "unterminated address regex"
      | some (holds, rest) =>
        let folded (x : Char) : Bool :=
          holds x || (st.isFolded && (holds x.toLower || holds x.toUpper))
        add (.atom (one fun x => folded x != negated)) rest
    | '.' => add (.atom (one fun _ => true)) rest
    | '*' =>
      add (if isFirst && !st.isExtended then .atom (one (· = '*')) else .times 0 none) rest
    | '^' => add (.atom (if st.isExtended || isFirst then lineStart else one (· = '^'))) rest
    | '$' => add (.atom (if st.isExtended || atEnd then lineEnd else one (· = '$'))) rest
    | c => (if st.isExtended then special c rest else none).getD (add (.atom (st.character c)) rest)

/-- The repetitions at the start of signs, applied to an expression. -/
def repeatedBy (e : Expression) : List Sign → Expression × List Sign
  | .times least most :: rest => repeatedBy (repeated e least most) rest
  | rest => (e, rest)

mutual

/-- Reads choices with bars between them. `groups` is the number of groups so far. -/
def readEither : Nat → Nat → List Sign → Except String (Expression × Nat × List Sign)
  | 0, groups, signs => .ok (empty, groups, signs)
  | fuel + 1, groups, signs => do
    let (a, groups, signs) ← readRow fuel empty groups signs
    match signs with
    | .bar :: signs =>
      let (b, groups, signs) ← readEither fuel groups signs
      return (either a b, groups, signs)
    | signs => return (a, groups, signs)

/-- Reads signs one behind the other; `row` is what is read so far. -/
def readRow : Nat → Expression → Nat → List Sign → Except String (Expression × Nat × List Sign)
  | 0, row, groups, signs => .ok (row, groups, signs)
  | fuel + 1, row, groups, signs =>
    match signs with
    | .opening :: signs => do
      let n := groups + 1
      let (e, groups, signs) ← readEither fuel n signs
      match signs with
      | .closing :: signs =>
        let (e, signs) := repeatedBy (group n e) signs
        readRow fuel (both row e) groups signs
      | _ => .error "Unmatched ( or \\("
    | .times .. :: _ => .error "Invalid preceding regular expression"
    | .atom (same n) :: signs =>
      if groups < n then .error "Invalid back reference"
      else
        let (e, signs) := repeatedBy (same n) signs
        readRow fuel (both row e) groups signs
    | .atom e :: signs =>
      let (e, signs) := repeatedBy e signs
      readRow fuel (both row e) groups signs
    | signs => return (row, groups, signs)

end

/-- The expression that a text writes with the number of its groups, or what is wrong with it. -/
def read (st : Style) (s : Octets) : Except String (Expression × Nat) := do
  let signs ← signs st (s.length + 1) true s
  let (e, groups, rest) ← readEither (2 * signs.length + 2) 0 signs
  if rest.isEmpty then return (e, groups) else .error "Unmatched ) or \\)"

/-- The expression that stands for a text itself. -/
def literal (st : Style) (s : Octets) : Expression :=
  s.foldr (fun c e => both (st.character c) e) empty

end Expression

end Conformance.Shell
