/-!
# Where JSON text goes wrong

What makes a text no JSON document, and the place where the reader stands when it finds out. The
place counts lines from one and bytes since the last line feed.
-/

namespace Conformance.Json

/-- What makes a text no JSON document. -/
inductive Cause where
  | endInValue
  | endInArray
  | endInObject
  | endInString
  | expectedValue
  | expectedIdentifier
  | expectedColon
  | expectedCommaOrBracket
  | expectedCommaOrBrace
  | expectedKey
  | trailingComma
  | trailingCharacters
  | invalidNumber
  | numberOutOfRange
  | invalidEscape
  | loneSurrogate
  | brokenSurrogatePair
  | controlCharacter
  | tooDeep
  deriving Repr, DecidableEq

/-- The sentence for a cause. -/
def Cause.message : Cause → String
  | .endInValue => "EOF while parsing a value"
  | .endInArray => "EOF while parsing a list"
  | .endInObject => "EOF while parsing an object"
  | .endInString => "EOF while parsing a string"
  | .expectedValue => "expected value"
  | .expectedIdentifier => "expected ident"
  | .expectedColon => "expected `:`"
  | .expectedCommaOrBracket => "expected `,` or `]`"
  | .expectedCommaOrBrace => "expected `,` or `\x7d`"
  | .expectedKey => "key must be a string"
  | .trailingComma => "trailing comma"
  | .trailingCharacters => "trailing characters"
  | .invalidNumber => "invalid number"
  | .numberOutOfRange => "number out of range"
  | .invalidEscape => "invalid escape"
  | .loneSurrogate => "lone leading surrogate in hex escape"
  | .brokenSurrogatePair => "unexpected end of hex escape"
  | .controlCharacter => "control character (\\u0000-\\u001F) found while parsing a string"
  | .tooDeep => "recursion limit exceeded"

/-- A cause, the text that was unread when it arose, and how many bytes of that text had been looked
at. -/
structure Fault where
  cause : Cause
  rest : List Char
  ahead : Nat
  deriving Repr, DecidableEq

/-- How many bytes the text takes. -/
def byteLength (s : List Char) : Nat := s.foldl (fun n c => n + c.utf8Size) 0

/-- The line, from one, and the bytes since its start, after the first `n` bytes of a text. -/
def place (bytes : List UInt8) (n : Nat) : Nat × Nat :=
  let before := bytes.take n
  (before.count 10 + 1, (before.reverse.takeWhile (· != 10)).length)

/-- The sentence for a fault found in `text`. -/
def Fault.message (text : String) (f : Fault) : String :=
  let bytes := text.toUTF8.toList
  let (line, column) := place bytes (bytes.length - byteLength f.rest + f.ahead)
  f.cause.message ++ " at line " ++ toString line ++ " column " ++ toString column

end Conformance.Json
