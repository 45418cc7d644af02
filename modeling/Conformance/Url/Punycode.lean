/-!
# Names in ASCII

Punycode writes any text in small letters, digits and hyphens: the ASCII characters come first, and
behind a hyphen a row of numbers says where the others are inserted, in the order of their code
points. A number has base 36 with the least digit first; how large a digit may be without ending the
number depends on its place and on a bias, which follows the numbers written so far.
-/

namespace Conformance.Url.Punycode

/-- A digit: a letter, or behind the letters a figure. -/
def digitChar (d : Nat) : Char := if d < 26 then Char.ofNat (97 + d) else Char.ofNat (22 + d)

/-- The value of a digit. -/
def digit? (c : Char) : Option Nat :=
  if 'a' ≤ c && c ≤ 'z' then some (c.toNat - 97)
  else if c.isDigit then some (c.toNat - 22)
  else none

/-- The least digit that does not end a number, at a place counted in steps of 36. -/
def threshold (place bias : Nat) : Nat := min 26 (max 1 (place - bias))

theorem threshold_pos (place bias : Nat) : 0 < threshold place bias := by
  unfold threshold
  omega

/-- Divides a number by 35 until it is small, with the places that it has. -/
def settle (delta places : Nat) : Nat × Nat :=
  if 455 < delta then settle (delta / 35) (places + 36) else (delta, places)
termination_by delta

/-- The bias behind a number that inserts one of `count` characters; the first number is damped. -/
def biasAfter (delta count : Nat) (isFirst : Bool) : Nat :=
  let delta := if isFirst then delta / 700 else delta / 2
  let (delta, places) := settle (delta + delta / count) 0
  places + 36 * delta / (delta + 38)

/-- The digits of a number from a place on. -/
def digits (bias place n : Nat) : List Char :=
  let t := threshold place bias
  if n < t then [digitChar n]
  else digitChar (t + (n - t) % (36 - t)) :: digits bias (place + 36) ((n - t) / (36 - t))
termination_by n
decreasing_by
  have := threshold_pos place bias
  exact Nat.lt_of_le_of_lt (Nat.div_le_self _ _) (by omega)

/-- What is known while numbers are written. -/
structure Writer where
  /-- The digits so far. -/
  out : List Char
  /-- The number that is counted. -/
  delta : Nat
  bias : Nat
  /-- How many characters are written. -/
  count : Nat

/-- Counts a character of the text for those with the code point `code`: one below it is passed, and
at one with it the number is written. -/
def Writer.pass (code basic : Nat) (w : Writer) (c : Char) : Writer :=
  if c.toNat < code then { w with delta := w.delta + 1 }
  else if c.toNat = code then
    ⟨w.out ++ digits w.bias 36 w.delta, 0, biasAfter w.delta (w.count + 1) (w.count = basic),
      w.count + 1⟩
  else w

/-- Writes the characters with each of the rising code points, the first of them from `start` on. -/
def Writer.write (s : List Char) (basic : Nat) : Nat → List Nat → Writer → Writer
  | _, [], w => w
  | start, code :: codes, w =>
    let w := { w with delta := w.delta + (code - start) * (w.count + 1) }
    let w := s.foldl (Writer.pass code basic) w
    Writer.write s basic (code + 1) codes { w with delta := w.delta + 1 }

/-- The text in ASCII. -/
def encode (s : List Char) : List Char :=
  let basic := s.filter (·.toNat < 0x80)
  let codes := ((s.map Char.toNat).filter (0x80 ≤ ·)).mergeSort.eraseDups
  let w := Writer.write s basic.length 0x80 codes ⟨[], 0, 72, basic.length⟩
  basic ++ (if basic.isEmpty then [] else ['-']) ++ w.out

/-- What is known while numbers are read. -/
structure Reader where
  /-- The text so far. -/
  out : List Char
  /-- The code point of the next character. -/
  code : Nat
  /-- Where the numbers before this one end. -/
  start : Nat
  /-- The number so far. -/
  n : Nat
  bias : Nat
  /-- What the next digit counts. -/
  weight : Nat
  /-- The place of the next digit. -/
  place : Nat

/-- Numbers have 32 bits. -/
def limit : Nat := 4294967296

/-- Reads a digit. The last digit of a number inserts a character. -/
def Reader.read (r : Reader) (c : Char) : Option Reader := do
  let d ← digit? c
  let n := r.n + d * r.weight
  if limit ≤ n then none
  let t := threshold r.place r.bias
  if d < t then
    let count := r.out.length + 1
    let code := r.code + n / count
    if !code.isValidChar then none
    let i := n % count
    return ⟨r.out.insertIdx i (Char.ofNat code), code, i + 1, i + 1,
      biasAfter (n - r.start) count (r.start = 0), 1, 36⟩
  else
    let weight := r.weight * (36 - t)
    if limit ≤ weight then none
    return { r with n := n, weight := weight, place := r.place + 36 }

/-- The text that a name in ASCII stands for. -/
def decode? (s : List Char) : Option (List Char) := do
  let back := s.reverse.takeWhile (· ≠ '-')
  let basic := s.take (s.length - back.length - 1)
  if !basic.all (·.toNat < 0x80) then none
  let numbers := if basic.isEmpty then s else back.reverse
  let r ← numbers.foldlM Reader.read ⟨basic, 0x80, 0, 0, 72, 1, 36⟩
  if r.place = 36 then return r.out else none

end Conformance.Url.Punycode
