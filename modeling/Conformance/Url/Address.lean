/-!
# Numeric addresses

A host can be named by its number: four bytes with points between, or eight groups of two bytes with
colons between, the longest run of groups that are zero written as a double colon.
-/

namespace Conformance.Url

/-- The number that digits of a base write; nothing if one of them is no digit. -/
def number? (base : Nat) (s : List Char) : Option Nat :=
  s.foldlM (fun n c =>
    let d :=
      if c.isDigit then c.toNat - 48
      else if 'a' ≤ c && c ≤ 'f' then c.toNat - 87
      else if 'A' ≤ c && c ≤ 'F' then c.toNat - 55
      else 16
    if d < base then some (base * n + d) else none) 0

/-- The parts of a text between the characters of a class. -/
def splitWhere (isMark : Char → Bool) : List Char → List (List Char)
  | [] => [[]]
  | c :: rest =>
    match splitWhere isMark rest with
    | [] => [[c]]
    | p :: ps => if isMark c then [] :: p :: ps else (c :: p) :: ps

/-! ## Four bytes -/

/-- The number that a part of an address writes, to base sixteen behind `0x`, to base eight behind a
zero. -/
def partNumber? (s : List Char) : Option Nat :=
  match s with
  | [] => none
  | ['0'] => some 0
  | '0' :: 'x' :: rest => number? 16 rest
  | '0' :: rest => number? 8 rest
  | s => number? 10 s

/-- The parts between the points of a name, without an empty one at the end. -/
def numberParts (s : List Char) : List (List Char) :=
  let parts := splitWhere (· = '.') s
  if 1 < parts.length && parts.getLast? = some [] then parts.dropLast else parts

/-- Does a name end in a number? Then all of it is an address. -/
def endsInNumber (s : List Char) : Bool :=
  match (numberParts s).getLast? with
  | none | some [] => false
  | some last => last.all Char.isDigit || (partNumber? last).isSome

/-- The address that a name writes. It has one to four parts; each but the last is a byte, and the
last stands for all bytes that are left. -/
def fourBytes? (s : List Char) : Option Nat := do
  let ns ← (numberParts s).mapM partNumber?
  match ns.reverse with
  | [] => none
  | last :: front =>
    if 4 < ns.length || front.any (255 < ·) || Nat.pow 256 (5 - ns.length) ≤ last then none
    else
      let front := front.reverse ++ List.replicate (4 - front.length) 0
      return front.foldl (256 * · + ·) 0 + last

/-- Four bytes with points between. -/
def fourBytesText (n : Nat) : String :=
  let places : List Nat := [16777216, 65536, 256, 1]
  ".".intercalate (places.map fun place => toString (n / place % 256))

/-! ## Eight groups -/

/-- A byte without a zero in front. -/
def plainByte? (s : List Char) : Option Nat :=
  match s with
  | [] => none
  | ['0'] => some 0
  | '0' :: _ => none
  | s => (number? 10 s).filter (· ≤ 255)

/-- The groups between colons. In place of the last two there may be four bytes with points. -/
def groups? (pointsAllowed : Bool) : List (List Char) → Option (List Nat)
  | [] => some []
  | [last] =>
    if pointsAllowed && last.contains '.' then
      match (splitWhere (· = '.') last).mapM plainByte? with
      | some [a, b, c, d] => some [256 * a + b, 256 * c + d]
      | _ => none
    else (group? last).map ([·])
  | p :: rest => do
    let n ← group? p
    let ns ← groups? pointsAllowed rest
    return n :: ns
where
  /-- One to four digits. -/
  group? (s : List Char) : Option Nat :=
    if s.isEmpty || 4 < s.length then none else number? 16 s

/-- The groups of a text that may be empty. -/
def groupsOrNone? (pointsAllowed : Bool) (s : List Char) : Option (List Nat) :=
  if s.isEmpty then some [] else groups? pointsAllowed (splitWhere (· = ':') s)

/-- The text in front of the first double colon, and behind it. -/
def doubleColon? : List Char → Option (List Char × List Char)
  | ':' :: ':' :: rest => some ([], rest)
  | c :: rest => (doubleColon? rest).map fun (front, back) => (c :: front, back)
  | [] => none

/-- The eight groups that a text writes. A double colon stands for one group or more. -/
def eightGroups? (s : List Char) : Option (List Nat) :=
  match doubleColon? s with
  | none => (groups? true (splitWhere (· = ':') s)).filter (·.length = 8)
  | some (front, back) => do
    let front ← groupsOrNone? false front
    let back ← groupsOrNone? true back
    if 7 < front.length + back.length then none
    else return front ++ List.replicate (8 - front.length - back.length) 0 ++ back

/-- A group without zeros in front. -/
def groupText (n : Nat) : String := String.ofList (Nat.toDigits 16 n)

/-- The start and the length of the longest run of zeros, the first of several. -/
def longestZeros (groups : List Nat) : Nat × Nat :=
  (List.range groups.length).foldl (fun best i =>
    let n := ((groups.drop i).takeWhile (· = 0)).length
    if best.2 < n then (i, n) else best) (0, 0)

/-- Eight groups with colons between; the longest run of two zeros or more is a double colon. -/
def eightGroupsText (groups : List Nat) : String :=
  let join (l : List Nat) : String := ":".intercalate (l.map groupText)
  let (start, n) := longestZeros groups
  if n < 2 then join groups
  else join (groups.take start) ++ "::" ++ join (groups.drop (start + n))

example : fourBytes? "0x7f.1".toList = some 2130706433 := by decide
example : fourBytesText 2130706433 = "127.0.0.1" := by decide +kernel
example : eightGroups? "::ffff:127.0.0.1".toList = some [0, 0, 0, 0, 0, 0xFFFF, 0x7F00, 1] :=
  by decide
example : eightGroups? "1::2::3".toList = none := by decide
example : eightGroupsText [1, 0, 0, 2, 0, 0, 0, 3] = "1:0:0:2::3" := by decide +kernel

end Conformance.Url
