import Conformance.Json.Error

/-!
# JSON strings

`stringBody` reads a string from behind its opening quote to its closing one, a character at a time.
What an escape has read so far is part of the state, so each step looks at one character only.
-/

namespace Conformance.Json

/-- The value of a digit to base sixteen. -/
def hexValue? (c : Char) : Option Nat :=
  if '0' ≤ c ∧ c ≤ '9' then some (c.toNat - 48)
  else if 'a' ≤ c ∧ c ≤ 'f' then some (c.toNat - 87)
  else if 'A' ≤ c ∧ c ≤ 'F' then some (c.toNat - 55)
  else none

/-- What the reader of a string is in the middle of. -/
inductive Progress where
  /-- Between two characters of the string. -/
  | plain
  /-- Behind a backslash. -/
  | escape
  /-- In the four digits of a code unit that begin at `start`; `left` of them are to come. `high` is
  the first half of a pair that waits for its second. -/
  | unit (high : Option Nat) (start : List Char) (value left : Nat)
  /-- Before the backslash of the second half of a pair. -/
  | secondSlash (high : Nat)
  /-- Before the letter of the second half of a pair. -/
  | secondLetter (high : Nat)
  deriving Repr

/-- The character that a short escape stands for. -/
def shortEscape? (c : Char) : Option Char :=
  match c with
  | '"' => some '"'
  | '\\' => some '\\'
  | '/' => some '/'
  | 'b' => some '\x08'
  | 'f' => some '\x0c'
  | 'n' => some '\n'
  | 'r' => some '\r'
  | 't' => some '\t'
  | _ => none

/-- The fault of four digits that begin at `start` and are not all there. -/
def unitFault (start : List Char) : Fault :=
  if byteLength start < 4 then ⟨.endInString, [], 0⟩ else ⟨.invalidEscape, start, 4⟩

/-- The character of a pair of code units. -/
def pairChar (high low : Nat) : Char :=
  Char.ofNat ((high - 0xD800) * 0x400 + (low - 0xDC00) + 0x10000)

/-- Is the code unit the first half of a pair? -/
def isHigh (unit : Nat) : Bool := 0xD800 ≤ unit && unit ≤ 0xDBFF

/-- Is the code unit the second half of a pair? -/
def isLow (unit : Nat) : Bool := 0xDC00 ≤ unit && unit ≤ 0xDFFF

/-- What a finished code unit comes to: a character, or a first half that waits for its second. -/
def finishUnit (high : Option Nat) (unit : Nat) : Except Cause (Char ⊕ Nat) :=
  match high with
  | none =>
    if isLow unit then .error .loneSurrogate
    else if isHigh unit then .ok (.inr unit)
    else .ok (.inl (Char.ofNat unit))
  | some h => if isLow unit then .ok (.inl (pairChar h unit)) else .error .loneSurrogate

/-- Puts a character in front of what was read. -/
def consChar (c : Char) (r : Except Fault (List Char × List Char)) :
    Except Fault (List Char × List Char) :=
  r.map fun (cs, rest) => (c :: cs, rest)

/-- Reads to the closing quote; the second part of the result is the text behind it. -/
def stringBody : Progress → List Char → Except Fault (List Char × List Char)
  | .unit _ start _ _, [] => .error (unitFault start)
  | _, [] => .error ⟨.endInString, [], 0⟩
  | .plain, c :: rest =>
    if c = '"' then .ok ([], rest)
    else if c = '\\' then stringBody .escape rest
    else if c.toNat < 0x20 then .error ⟨.controlCharacter, c :: rest, 1⟩
    else consChar c (stringBody .plain rest)
  | .escape, c :: rest =>
    if c = 'u' then stringBody (.unit none rest 0 4) rest
    else match shortEscape? c with
      | some d => consChar d (stringBody .plain rest)
      | none => .error ⟨.invalidEscape, c :: rest, 1⟩
  | .unit high start value left, c :: rest =>
    match hexValue? c with
    | none => .error (unitFault start)
    | some d =>
      if left ≤ 1 then
        match finishUnit high (value * 16 + d) with
        | .error cause => .error ⟨cause, rest, 0⟩
        | .ok (.inl c) => consChar c (stringBody .plain rest)
        | .ok (.inr h) => stringBody (.secondSlash h) rest
      else stringBody (.unit high start (value * 16 + d) (left - 1)) rest
  | .secondSlash high, c :: rest =>
    if c = '\\' then stringBody (.secondLetter high) rest
    else .error ⟨.brokenSurrogatePair, c :: rest, 1⟩
  | .secondLetter high, c :: rest =>
    if c = 'u' then stringBody (.unit (some high) rest 0 4) rest
    else .error ⟨.brokenSurrogatePair, c :: rest, 1⟩

/-- Reads a string from behind its opening quote. -/
def readString (s : List Char) : Except Fault (String × List Char) :=
  (stringBody .plain s).map fun (cs, rest) => (String.ofList cs, rest)

end Conformance.Json
