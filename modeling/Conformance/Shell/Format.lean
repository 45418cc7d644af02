import Conformance.Decimal.Reader
import Conformance.Decimal.Rounded
import Conformance.Shell.Number

/-!
# Formatted output

The escapes and formats with which a script writes. A format is used again as long as there are
arguments for it.
-/

namespace Conformance.Shell

/-- The value of a digit to base eight. -/
def octalDigit? (c : Char) : Option Nat :=
  if '0' ≤ c && c ≤ '7' then some (c.toNat - 48) else none

/-- Up to `count` digits to base eight at the start of a text: their value and the text behind them.
-/
def octal (count value : Nat) : Octets → Nat × Octets
  | [] => (value, [])
  | c :: rest =>
    match count, octalDigit? c with
    | n + 1, some d => octal n (8 * value + d) rest
    | _, _ => (value, c :: rest)

/-- The character of an escape without digits. -/
def plainEscape? (c : Char) : Option Char :=
  match c with
  | 'a' => some '\x07'
  | 'b' => some '\x08'
  | 'e' => some '\x1b'
  | 'f' => some '\x0c'
  | 'n' => some '\n'
  | 'r' => some '\r'
  | 't' => some '\t'
  | 'v' => some '\x0b'
  | '\\' => some '\\'
  | _ => none

/-- The character with a number modulo 256. -/
def octet (n : Nat) : Char := Char.ofNat (n % 256)

/-- A text with its escapes put in, and whether it was cut short by one. A number to base eight may
have a zero in front of its digits. -/
def unescape : Nat → Octets → Octets × Bool
  | 0, s => (s, false)
  | _, [] => ([], false)
  | _, '\\' :: 'c' :: _ => ([], true)
  | fuel + 1, '\\' :: c :: rest =>
    if (octalDigit? c).isSome then
      let (n, rest) := if c = '0' then octal 3 0 rest else octal 3 0 (c :: rest)
      let (s, cut) := unescape fuel rest
      (octet n :: s, cut)
    else
      let (s, cut) := unescape fuel rest
      match plainEscape? c with
      | some d => (d :: s, cut)
      | none => ('\\' :: c :: s, cut)
  | fuel + 1, c :: rest =>
    let (s, cut) := unescape fuel rest
    (c :: s, cut)

/-- What a conversion does with its argument. -/
structure Conversion where
  left : Bool := false
  zero : Bool := false
  plus : Bool := false
  space : Bool := false
  alternative : Bool := false
  width : Nat := 0
  precision : Option Nat := none
  deriving Repr

/-- A text with blanks up to the width of its conversion. -/
def Conversion.pad (c : Conversion) (s : Octets) : Octets :=
  let fill := List.replicate (c.width - s.length) ' '
  if c.left then s ++ fill else fill ++ s

/-- Reads the flags of a conversion. -/
def Conversion.flags (c : Conversion) : Octets → Conversion × Octets
  | [] => (c, [])
  | '-' :: rest => flags { c with left := true } rest
  | '0' :: rest => flags { c with zero := true } rest
  | '+' :: rest => flags { c with plus := true } rest
  | ' ' :: rest => flags { c with space := true } rest
  | '#' :: rest => flags { c with alternative := true } rest
  | s => (c, s)

/-- What is wrong with an argument that should be a number. -/
inductive NumberFault where
  | absent
  | incomplete
  | outOfRange

/-- The complaint about an argument. -/
def NumberFault.message : NumberFault → String
  | .absent => "expected numeric value"
  | .incomplete => "not completely converted"
  | .outOfRange => "Numerical result out of range"

/-- The character behind a quote, whose number an argument can stand for. -/
def quotedNumber? : Octets → Option Nat
  | '\'' :: rest | '"' :: rest => some ((rest.head?.map Char.toNat).getD 0)
  | _ => none

/-- The whole number at the start of an argument, and what is wrong with the argument. Without a
sign, numbers have one bit more. -/
def wholeAt (signed : Bool) (s : Octets) : Int × Option NumberFault :=
  match quotedNumber? s, Numeral.ofText? s with
  | some n, _ => (n, none)
  | none, none => (0, if s.isEmpty then none else some .absent)
  | none, some n =>
    let bound := if signed then greatest + (if n.isNegative then 1 else 0) else 2 * greatest + 1
    let value : Int := if bound < n.magnitude then
        (if signed && n.isNegative then -(bound : Int) else bound)
      else n.value
    (value, if !n.rest.isEmpty then some .incomplete
      else if bound < n.magnitude then some .outOfRange else none)

/-- The decimal at the start of an argument, and what is wrong with the argument. -/
def decimalAt? (s : Octets) : Float × Option NumberFault :=
  match quotedNumber? s with
  | some n => (Float.ofNat n, none)
  | none =>
    let text := s.dropWhile isSpace
    let lengths := (List.range (text.length + 1)).reverse
    let read? (n : Nat) : Option (Decimal.Written × Nat) :=
      (Decimal.Written.ofChars? (text.take n)).map fun w => (w, n)
    match lengths.findSome? read? with
    | none => (0, if s.isEmpty then none else some .absent)
    | some (w, n) => (w.toFloat, if n < text.length then some .incomplete else none)

/-- The digits of a number as a conversion writes them. -/
def digitsFor (kind : Char) (n : Nat) : Octets :=
  match kind with
  | 'o' => Nat.toDigits 8 n
  | 'x' => Nat.toDigits 16 n
  | 'X' => (Nat.toDigits 16 n).map Char.toUpper
  | _ => Nat.toDigits 10 n

/-- A number as a conversion writes it. -/
def Conversion.number (c : Conversion) (kind : Char) (n : Int) : Octets :=
  let signed := kind = 'd' || kind = 'i'
  let magnitude := if signed then n.natAbs else (n % (UInt64.size : Int)).toNat
  let digits := digitsFor kind magnitude
  let digits := List.replicate ((c.precision.getD 1) - digits.length) '0' ++ digits
  let digits :=
    if c.alternative && kind = 'o' && digits.head? ≠ some '0' then '0' :: digits else digits
  let sign := if signed && n < 0 then ['-'] else if signed && c.plus then ['+']
    else if signed && c.space then [' '] else []
  let mark := if c.alternative && kind = 'x' && n ≠ 0 then ['0', 'x']
    else if c.alternative && kind = 'X' && n ≠ 0 then ['0', 'X'] else []
  let body := sign ++ mark ++ digits
  if c.zero && !c.left && c.precision.isNone then
    sign ++ mark ++ List.replicate (c.width - body.length) '0' ++ digits
  else c.pad body

/-- A double as a conversion writes it. -/
def Conversion.double (c : Conversion) (kind : Char) (f : Float) : Octets :=
  let bits := f.toBits
  let isFinite := Decimal.exponentField bits ≠ 2047
  let p := Decimal.Parts.ofBits bits
  let places := c.precision.getD 6
  let text := if !isFinite then (if Decimal.fractionField bits = 0 then "inf" else "nan").toList
    else
      match kind.toLower with
      | 'f' => p.fixed places
      | 'e' => p.scientific places
      | _ => p.general places c.alternative
  let text := if kind.isUpper then text.map Char.toUpper else text
  let sign := if Decimal.signField bits then ['-'] else if c.plus then ['+']
    else if c.space then [' '] else []
  let body := sign ++ text
  if c.zero && !c.left && isFinite then sign ++ List.replicate (c.width - body.length) '0' ++ text
  else c.pad body

/-- What a use of a format wrote so far. -/
structure Formatted where
  text : Octets := []
  args : List Octets
  /-- Was an argument used? -/
  used : Bool := false
  /-- Is the output at its end? -/
  cut : Bool := false
  /-- What is wrong with arguments that should be numbers. -/
  complaints : List String := []
  /-- What is wrong with the format. -/
  fault : Option String := none

/-- Adds text to the output. -/
def Formatted.add (f : Formatted) (s : Octets) : Formatted := { f with text := f.text ++ s }

/-- Takes the next argument. -/
def Formatted.next (f : Formatted) : Octets × Formatted :=
  match f.args with
  | [] => ([], { f with used := true })
  | a :: rest => (a, { f with args := rest, used := true })

/-- A whole number at the start of a format, or one from the arguments. -/
def Formatted.size (f : Formatted) : Octets → Option Int × Formatted × Octets
  | '*' :: rest =>
    let (a, f) := f.next
    (some (wholeAt true a).1, f, rest)
  | s =>
    let ds := s.takeWhile Char.isDigit
    ((count? ds).map Int.ofNat, f, s.dropWhile Char.isDigit)

/-- Adds a number that an argument gave, and what is wrong with the argument. -/
def Formatted.addNumber (f : Formatted) (text argument : Octets) (fault : Option NumberFault) :
    Formatted :=
  { f.add text with
    complaints := f.complaints
      ++ (fault.map fun x => Octets.toText argument ++ ": " ++ x.message).toList }

/-- Writes one conversion; `written` is its text up to the letter. -/
def Formatted.convert (f : Formatted) (c : Conversion) (kind : Char) (written : Octets) :
    Formatted :=
  let (a, next) := f.next
  match kind with
  | 's' =>
    next.add (c.pad (match c.precision with
      | some n => a.take n
      | none => a))
  | 'b' =>
    let (s, cut) := unescape (a.length + 1) a
    { next.add (c.pad s) with cut := cut }
  | 'c' => next.add (c.pad [a.headD '\x00'])
  | kind =>
    if "diouxX".toList.contains kind then
      let (n, fault) := wholeAt (kind = 'd' || kind = 'i') a
      next.addNumber (c.number kind n) a fault
    else if "eEfFgG".toList.contains kind then
      let (x, fault) := decimalAt? a
      next.addNumber (c.double kind x) a fault
    else
      let reason := Octets.toText (written ++ [kind]) ++ ": invalid directive"
      { f with cut := true, fault := some reason }

/-- Writes a format once. -/
def Formatted.once : Nat → Formatted → Octets → Formatted
  | 0, f, _ => f
  | _, f, [] => f
  | fuel + 1, f, '%' :: '%' :: rest => once fuel (f.add ['%']) rest
  | fuel + 1, f, '%' :: rest =>
    let (c, behind) := Conversion.flags {} rest
    let (width, f, behind) := f.size behind
    let c := match width with
      | some (.ofNat n) => { c with width := n }
      | some (.negSucc n) => { c with width := n + 1, left := true }
      | none => c
    let (precision, f, behind) := match behind with
      | '.' :: more =>
        let (p, f, more) := f.size more
        (some (p.getD 0).toNat, f, more)
      | more => (none, f, more)
    match behind with
    | [] => { f with cut := true, fault := some "missing format character" }
    | kind :: more =>
      let written := '%' :: rest.take (rest.length - behind.length)
      let f := f.convert { c with precision := precision } kind written
      if f.cut then f else once fuel f more
  | fuel + 1, f, '\\' :: c :: rest =>
    if (octalDigit? c).isSome then
      let (n, rest) := octal 3 0 (c :: rest)
      once fuel (f.add [octet n]) rest
    else once fuel (f.add (((plainEscape? c).map ([·])).getD ['\\', c])) rest
  | fuel + 1, f, c :: rest => once fuel (f.add [c]) rest

/-- Writes a format again and again while there are arguments. -/
def Formatted.all (format : Octets) : Nat → Formatted → Formatted
  | 0, f => f
  | fuel + 1, f =>
    let f := Formatted.once (format.length + 1) { f with used := false } format
    if f.args.isEmpty || !f.used || f.cut then f else all format fuel f

/-- What a format with arguments writes. -/
def formatted (format : Octets) (args : List Octets) : Formatted :=
  Formatted.all format (args.length + 1) { args := args }

end Conformance.Shell
