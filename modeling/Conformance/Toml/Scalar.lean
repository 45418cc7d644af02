import Conformance.Decimal.Reader
import Conformance.Toml.Value

/-!
# TOML scalars

Strings, numbers, truth values and dates. Every reader takes the text still to read and gives back
what it leaves. A failure says how much was unread where it was found, which is what a message about
it points to.
-/

namespace Conformance.Toml

/-- What is wrong, and the text that was unread where it was found. -/
structure SyntaxError where
  problem : String
  rest : List Char
  /-- Has the text already shown what kind of thing it is? Otherwise it is not there, and something
  else may stand in its place. -/
  settled : Bool := true
  deriving Repr

/-- What reading gives, or why it fails. -/
abbrev Reading := Except SyntaxError

/-- A failure of something that is known to stand there. -/
def broken {α : Type} (problem : String) (rest : List Char) : Reading α :=
  .error ⟨problem, rest, true⟩

/-- A failure of something that may not stand there at all. -/
def absent {α : Type} (problem : String) (rest : List Char) : Reading α :=
  .error ⟨problem, rest, false⟩

/-- A blank within a line. -/
def isBlank (c : Char) : Bool := c = ' ' || c = '\t'

/-- May the character stand in a comment or a literal string? -/
def isText (c : Char) : Bool := c = '\t' || (0x20 ≤ c.toNat && c.toNat ≠ 0x7F)

/-- Passes over blanks. -/
def skipBlanks (s : List Char) : List Char := s.dropWhile isBlank

/-- Passes over a line break, if there is one. -/
def newline? : List Char → Option (List Char)
  | '\n' :: rest => some rest
  | '\r' :: '\n' :: rest => some rest
  | _ => none

/-- The text behind a character that has to stand in front. -/
def expect (c : Char) (problem : String) : List Char → Reading (List Char)
  | [] => broken problem []
  | d :: rest => if d = c then .ok rest else broken problem (d :: rest)

/-- Reads the code point of an escape with `n` digits. -/
def readCodePoint (n : Nat) (s : List Char) : Reading (Char × List Char) :=
  match if (s.take n).length = n then Decimal.natInBase? 16 (s.take n) else none with
  | some v =>
    if (0xD800 ≤ v && v ≤ 0xDFFF) || 0x10FFFF < v then broken "value is out of range" s
    else .ok (Char.ofNat v, s.drop n)
  | none => broken "invalid unicode escape" s

/-- Reads an escape from behind its backslash. -/
def readEscape (s : List Char) : Reading (Char × List Char) :=
  match s with
  | 'b' :: rest => .ok ('\x08', rest)
  | 't' :: rest => .ok ('\t', rest)
  | 'n' :: rest => .ok ('\n', rest)
  | 'f' :: rest => .ok ('\x0c', rest)
  | 'r' :: rest => .ok ('\r', rest)
  | '"' :: rest => .ok ('"', rest)
  | '\\' :: rest => .ok ('\\', rest)
  | 'u' :: rest => readCodePoint 4 rest
  | 'U' :: rest => readCodePoint 8 rest
  -- A character of one byte is passed over before it is refused.
  | c :: rest => broken "invalid escape sequence" (if c.toNat < 0x80 then rest else c :: rest)
  | [] => absent "invalid escape sequence" []

/-- Reads a string with escapes from behind its quote; the text so far is reversed. -/
def readBasic : Nat → List Char → List Char → Reading (String × List Char)
  | 0, _, s => broken "invalid basic string" s
  | fuel + 1, text, s =>
    match s with
    | '"' :: rest => .ok (String.ofList text.reverse, rest)
    | ['\\'] => broken "invalid basic string" s
    | '\\' :: rest => do
      let (c, rest) ← readEscape rest
      readBasic fuel (c :: text) rest
    | c :: rest =>
      if isText c then readBasic fuel (c :: text) rest else broken "invalid basic string" s
    | [] => broken "invalid basic string" s

/-- Reads a string without escapes from behind its quote. -/
def readLiteral (s : List Char) : Reading (String × List Char) :=
  let inside (c : Char) : Bool := isText c && c ≠ '\''
  match s.dropWhile inside with
  | '\'' :: rest => .ok (String.ofList (s.takeWhile inside), rest)
  | rest => broken "invalid literal string" rest

/-- Is there only blank up to the end of the line? -/
def blankLine? (s : List Char) : Option (List Char) := newline? (skipBlanks s)

/-- Passes over blanks and line breaks. -/
def skipLines : Nat → List Char → List Char
  | 0, s => s
  | fuel + 1, s =>
    match blankLine? s with
    | some rest => skipLines fuel rest
    | none => skipBlanks s

/-- The text between the marks of a string of several lines ends with the last three of up to five
quotes. -/
def closing? (quote : Char) (s : List Char) : Option (List Char × List Char) :=
  let quotes := s.takeWhile (· = quote)
  if quotes.length < 3 then none
  else
    let n := min quotes.length 5
    some (List.replicate (n - 3) quote, s.drop n)

/-- Reads a piece of a string of several lines: a character other than the quote, a line break or an
escape. A backslash at the end of a line takes the blanks and breaks behind it away. -/
def readPiece (quote : Char) (escapes : Bool) (s : List Char) : Reading (List Char × List Char) :=
  match s, newline? s with
  | _, some rest => .ok (['\n'], rest)
  | '\\' :: rest, none =>
    if escapes then
      match blankLine? rest with
      | some rest => .ok ([], skipLines (rest.length + 1) rest)
      | none => (readEscape rest).map fun (c, rest) => ([c], rest)
    else .ok (['\\'], rest)
  | c :: rest, none =>
    if isText c && c ≠ quote then .ok ([c], rest) else absent "invalid multiline string" s
  | [], none => absent "invalid multiline string" s

/-- Reads a string of several lines from behind its quotes; the text so far is reversed. Quotes
within it count only with the piece behind them. -/
def readLong (quote : Char) (escapes : Bool) :
    Nat → List Char → List Char → Reading (String × List Char)
  | 0, _, s => broken "invalid multiline string" s
  | fuel + 1, text, s =>
    match closing? quote s with
    | some (more, rest) => .ok (String.ofList (text.reverse ++ more), rest)
    | none =>
      let quotes := s.takeWhile (· = quote)
      let behind := s.drop quotes.length
      match readPiece quote escapes behind with
      | .ok (piece, rest) => readLong quote escapes fuel (piece.reverse ++ quotes ++ text) rest
      | .error e =>
        if !e.settled then broken e.problem s
        else if quotes.isEmpty then .error e
        else broken e.problem behind

/-- The text behind the first line break of a string of several lines. -/
def dropFirstBreak (s : List Char) : List Char := (newline? s).getD s

/-- Reads a string from its first quote on. -/
def readString (s : List Char) : Reading (String × List Char) :=
  match s with
  | '"' :: '"' :: '"' :: rest => readLong '"' true (rest.length + 1) [] (dropFirstBreak rest)
  | '\'' :: '\'' :: '\'' :: rest => readLong '\'' false (rest.length + 1) [] (dropFirstBreak rest)
  | '"' :: rest => readBasic (rest.length + 1) [] rest
  | '\'' :: rest => readLiteral rest
  | _ => absent "invalid string" s

/-- Is the character a digit to a base? -/
def isDigitIn (base : Nat) (c : Char) : Bool := (Decimal.digitValue? base c).isSome

/-- Reads the digits behind a first one; an underscore may stand between two. -/
def readMoreDigits (base : Nat) : List Char → Reading (List Char × List Char)
  | [] => .ok ([], [])
  | ['_'] => broken "invalid number" []
  | '_' :: c :: rest =>
    if isDigitIn base c then (readMoreDigits base rest).map fun (ds, r) => (c :: ds, r)
    else broken "invalid number" (c :: rest)
  | c :: rest =>
    if isDigitIn base c then (readMoreDigits base rest).map fun (ds, r) => (c :: ds, r)
    else .ok ([], c :: rest)

/-- Reads digits of which there has to be one. -/
def readDigits (base : Nat) : List Char → Reading (List Char × List Char)
  | [] => broken "invalid number" []
  | c :: rest =>
    if isDigitIn base c then (readMoreDigits base rest).map fun (ds, r) => (c :: ds, r)
    else broken "invalid number" (c :: rest)

/-- Reads the whole part of a decimal number: no zero stands in front of other digits. -/
def readWhole (s : List Char) : Reading (List Char × List Char) :=
  match s with
  | '0' :: rest => .ok (['0'], rest)
  | c :: _ => if c.isDigit then readDigits 10 s else absent "invalid integer" s
  | [] => absent "invalid integer" []

/-- An integer of sixty-four bits; `s` is its text. -/
def boundedInt (s : List Char) (n : Int) (rest : List Char) : Reading (Value × List Char) :=
  if Int64.minValue.toInt ≤ n && n ≤ Int64.maxValue.toInt then .ok (.integer n, rest)
  else broken "number too large to fit in target type" s

/-- Reads an exponent behind its letter. -/
def readExponent (s : List Char) : Reading (Int × List Char) := do
  let (sign, s) := Decimal.splitSign s
  let (ds, s) ← readDigits 10 s
  let n : Int := Decimal.natOf ds
  return (if sign = some true then -n else n, s)

/-- Reads the fraction and the exponent behind a whole part; none if there is neither. -/
def readTail (negative : Bool) (whole : List Char) (s : List Char) :
    Reading (Option (Decimal.Written × List Char)) :=
  match s with
  | '.' :: rest => do
    let (ds, rest) ← readDigits 10 rest
    let number (e : Int) : Decimal.Written := ⟨negative, whole ++ ds, ds.length, e⟩
    match rest with
    | 'e' :: more | 'E' :: more => do
      let (e, rest) ← readExponent more
      return some (number e, rest)
    | _ => return some (number 0, rest)
  | 'e' :: rest | 'E' :: rest => do
    let (e, rest) ← readExponent rest
    return some (⟨negative, whole, 0, e⟩, rest)
  | _ => .ok none

/-- The text behind a word that stands in front. -/
def behind? (word : String) (s : List Char) : Option (List Char) :=
  let w := word.toList
  if s.take w.length = w then some (s.drop w.length) else none

/-- A double that is spelled as a word. -/
def specialFloat? (negative : Bool) (s : List Char) : Option (Value × List Char) :=
  match behind? "inf" s with
  | some rest =>
    some (.float (if negative then (-1.0 / 0.0 : Float) else 1.0 / 0.0).toBits, rest)
  | none => (behind? "nan" s).map fun rest => (.float 0x7FF8000000000000, rest)

/-- The number of the first `n` characters, if they are digits and it lies within bounds. -/
def fixedDigits? (n low high : Nat) (s : List Char) : Option (Nat × List Char) :=
  let ds := s.take n
  if ds.length = n && ds.all Char.isDigit && low ≤ Decimal.natOf ds && Decimal.natOf ds ≤ high then
    some (Decimal.natOf ds, s.drop n)
  else none

/-- Reads two digits of a date or a time that lie within bounds. -/
def readTwoDigits (low high : Nat) (s : List Char) : Reading (Nat × List Char) :=
  match fixedDigits? 2 low high s with
  | some r => .ok r
  | none => broken "value is out of range" s

/-- How many days a month has. -/
def daysIn (year month : Nat) : Nat :=
  if month = 2 then
    if year % 4 = 0 && (year % 100 ≠ 0 || year % 400 = 0) then 29 else 28
  else if month = 4 || month = 6 || month = 9 || month = 11 then 30 else 31

/-- Passes over a date; four digits and a hyphen make one. -/
def skipDate (s : List Char) : Reading (List Char) :=
  match fixedDigits? 4 0 9999 s with
  | some (year, '-' :: rest) => do
    let (month, rest) ← readTwoDigits 1 12 rest
    let rest ← expect '-' "invalid date" rest
    let (_, rest) ← readTwoDigits 1 (daysIn year month) rest
    return rest
  | _ => absent "invalid date" s

/-- Passes over a time of day; an hour and a colon make one. -/
def skipTime (s : List Char) : Reading (List Char) :=
  match fixedDigits? 2 0 23 s with
  | some (_, ':' :: rest) => do
    let (_, rest) ← readTwoDigits 0 59 rest
    let rest ← expect ':' "invalid time" rest
    let (_, rest) ← readTwoDigits 0 60 rest
    match rest with
    | '.' :: d :: more => return if d.isDigit then more.dropWhile Char.isDigit else rest
    | _ => return rest
  | _ => absent "invalid time" s

/-- Passes over an offset, if there is one. -/
def skipOffset (s : List Char) : Reading (List Char) :=
  match s with
  | 'Z' :: rest | 'z' :: rest => .ok rest
  | '+' :: rest | '-' :: rest => do
    let (_, rest) ← readTwoDigits 0 23 rest
    let rest ← expect ':' "invalid offset" rest
    let (_, rest) ← readTwoDigits 0 59 rest
    return rest
  | rest => .ok rest

/-- What a reader finds that may find nothing. -/
def ifPresent {α : Type} (r : Reading α) : Reading (Option α) :=
  match r with
  | .ok a => .ok (some a)
  | .error e => if e.settled then .error e else .ok none

/-- Passes over a date, a time or both. -/
def skipDatetime (s : List Char) : Reading (List Char) := do
  match ← ifPresent (skipDate s) with
  | some (c :: more) =>
    if c = 'T' || c = 't' || c = ' ' then
      match ← ifPresent (skipTime more) with
      | some rest => skipOffset rest
      | none => return c :: more
    else return c :: more
  | some [] => return []
  | none => skipTime s

/-- Reads an integer to the base that a letter stands for. -/
def readBased (base : Nat) (s digits : List Char) : Reading (Value × List Char) := do
  let (ds, rest) ← readDigits base digits
  boundedInt s ((Decimal.natInBase? base ds).getD 0 : Nat) rest

/-- Reads a number or a date. -/
def readNumber (s : List Char) : Reading (Value × List Char) := do
  match ← ifPresent (skipDatetime s) with
  | some rest => return (.datetime, rest)
  | none =>
    let (sign, digits) := Decimal.splitSign s
    let negative := sign == some true
    match specialFloat? negative digits with
    | some r => return r
    | none =>
      let (whole, rest) ← readWhole digits
      match ← readTail negative whole rest with
      | some (w, rest) =>
        let f := w.toFloat
        if f == 1.0 / 0.0 then broken "invalid floating-point number" s
        else return (.float f.toBits, rest)
      | none =>
        match s with
        | '0' :: 'x' :: more => readBased 16 s more
        | '0' :: 'o' :: more => readBased 8 s more
        | '0' :: 'b' :: more => readBased 2 s more
        | _ =>
          let n : Int := Decimal.natOf whole
          boundedInt s (if negative then -n else n) rest

end Conformance.Toml
