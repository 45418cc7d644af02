import Conformance.Shell.CharacterClass
import Conformance.Shell.Lines

/-!
# Programs on characters

The programs that count, replace or encode the characters of what they read.
-/

namespace Conformance.Shell

/-! ## Counts -/

/-- The number of words of a text. -/
def wordCount (s : Octets) : Nat :=
  (s.foldl (fun (n, inside) c =>
    (if !isSpace c && !inside then n + 1 else n, !isSpace c)) ((0 : Nat), false)).1

/-- Counts lines, words, characters and bytes, and the sums of them if there is more than one file.
-/
def countUtility (s : Setting) : Effect :=
  s.withOptions 1 "lwcmL" "" fun o =>
    let kinds := if o.letters.isEmpty then ['l', 'w', 'c'] else ['l', 'w', 'm', 'c'].filter o.has
    let counts (text : Octets) : List Nat := kinds.map fun k =>
      match k with
      | 'l' => text.count '\n'
      | 'w' => wordCount text
      | _ => text.length
    let read (p : Octets) : List Nat × Option String :=
      if p = ['-'] then (counts s.input, none)
      else
        match s.read p with
        | .ok text => (counts text, none)
        | .error f => (counts [], some (Octets.toText p ++ ": " ++ reasonOf f))
    let isThere (p : Octets) : Bool := s.files.exists? (Octets.toText p)
    let rows := (if o.operands.isEmpty then [['-']] else o.operands).map fun p => (p, read p)
    let sizes := o.operands.filterMap fun p => ((s.read p).toOption).map List.length
    let isPlain := !o.operands.isEmpty && o.operands.all fun p =>
      p ≠ ['-'] && !s.files.isDirectory (Octets.toText p)
    let width := if rows.length = 1 && kinds.length = 1 then 1
      else
        let digits := (Octets.ofInt (Int.ofNat (sizes.foldl (· + ·) 0))).length
        if isPlain then digits else max 7 digits
    let line (ns : List Nat) (name : Octets) : Octets :=
      [' '].intercalate (ns.map fun (n : Nat) => padLeft width (Octets.ofInt n))
        ++ (if name.isEmpty then [] else ' ' :: name) ++ ['\n']
    let e := rows.foldl (fun (e : Effect) (p, ns, fault) =>
      let name := if o.operands.isEmpty then [] else p
      match fault with
      | none => e.write (line ns name)
      | some reason =>
        let e := e.complain 1 (s.complaint reason)
        if isThere p then e.write (line ns name) else e) { s.ends 0 with input := [] }
    let totals := rows.foldl (fun sums (_, ns, _) => List.zipWith (· + ·) sums ns) (counts [])
    if 1 < rows.length then e.write (line totals "total".toList) else e

/-! ## Replacements -/

/-- The characters with numbers from one to another. -/
def charactersFrom (a b : Char) : Octets :=
  (List.range (b.toNat + 1 - a.toNat)).map fun i => Char.ofNat (a.toNat + i)

/-- The characters of a set: ranges, classes and escapes stand for others. -/
def characterSet : Nat → Octets → Except String Octets
  | 0, _ | _, [] => .ok []
  | fuel + 1, '[' :: ':' :: rest =>
    let name := rest.takeWhile Char.isAlpha
    match rest.drop name.length with
    | ':' :: ']' :: behind => do
      match characterClass? name with
      | some holds =>
        return ((List.range 256).map Char.ofNat).filter holds ++ (← characterSet fuel behind)
      | none => throw ("invalid character class '" ++ Octets.toText name ++ "'")
    | _ => do return '[' :: (← characterSet fuel (':' :: rest))
  | fuel + 1, s =>
    let (a, rest) := one s
    match rest with
    | '-' :: b :: more =>
      let (b', behind) := one (b :: more)
      if b' < a then
        .error ("range-endpoints of '" ++ Octets.toText [a, '-', b']
          ++ "' are in reverse collating sequence order")
      else do return charactersFrom a b' ++ (← characterSet fuel behind)
    | rest => do return a :: (← characterSet fuel rest)
where
  /-- The character at the start of a set, and what stands behind it. -/
  one : Octets → Char × Octets
    | '\\' :: c :: rest =>
      if (octalDigit? c).isSome then
        let (n, rest) := octal 3 0 (c :: rest)
        (octet n, rest)
      else ((plainEscape? c).getD c, rest)
    | c :: rest => (c, rest)
    | [] => ('\x00', [])

/-- Each run of a character that is in the set, once. -/
def squeeze (set : Char → Bool) (s : Octets) : Octets :=
  (s.foldl (fun done c => if done.head? = some c && set c then done else c :: done) []).reverse

/-- Replaces, deletes or squeezes characters. -/
def characterUtility (s : Setting) : Effect :=
  s.withOptions 1 "cCdst" "" fun o =>
    let isComplement := o.has 'c' || o.has 'C'
    let deletes := o.has 'd'
    let squeezes := o.has 's'
    let wanted := if deletes && !squeezes then 1 else 2
    match o.operands with
    | [] => s.misused 1 "missing operand"
    | first :: others =>
      if others.isEmpty && (if deletes then squeezes else !squeezes) then
        s.misused 1 ("missing operand after '" ++ Octets.toText first ++ "'\n"
          ++ (if deletes then "Two strings must be given when both deleting and squeezing repeats."
            else "Two strings must be given when translating."))
      else
        match others.drop (wanted - 1) with
        | extra :: _ =>
          s.misused 1 ("extra operand '" ++ Octets.toText extra ++ "'"
            ++ (if wanted = 1 && others.length = 1 then
              "\nOnly one string may be given when deleting without squeezing repeats." else ""))
        | [] =>
          let second := others.head?
          match characterSet (first.length + 1) first,
              characterSet ((second.getD []).length + 1) (second.getD []) with
          | .error reason, _ | _, .error reason => s.fails 1 reason
          | .ok set, .ok images =>
            if second = some [] && !deletes then
              s.fails 1 "when not truncating set1, string2 must be non-empty"
            else
              let inSet (c : Char) : Bool := set.contains c != isComplement
              let set := if isComplement then (charactersFrom '\x00' '\xff').filter inSet else set
              let last := images.getLast?.getD ' '
              let table := (List.range 256).map fun n =>
                let c := Char.ofNat n
                if inSet c then images[set.idxOf c]?.getD last else c
              let table := table.toArray
              let image (c : Char) : Char := table[c.toNat]?.getD c
              let out :=
                if deletes then
                  let left := s.input.filter (!inSet ·)
                  if squeezes then squeeze images.contains left else left
                else if second.isNone then squeeze inSet s.input
                else if squeezes then squeeze images.contains (s.input.map image)
                else s.input.map image
              { s.writes out with input := [] }

/-! ## Encoding -/

/-- The characters that stand for six bits. -/
def sixBits : Octets :=
  charactersFrom 'A' 'Z' ++ charactersFrom 'a' 'z' ++ charactersFrom '0' '9' ++ ['+', '/']

/-- Three bytes each as four characters. -/
def encodeSixes : Octets → Octets
  | a :: b :: c :: rest =>
    let n := a.toNat * 65536 + b.toNat * 256 + c.toNat
    [six (n / 262144), six (n / 4096), six (n / 64), six n] ++ encodeSixes rest
  | [a, b] =>
    let n := a.toNat * 65536 + b.toNat * 256
    [six (n / 262144), six (n / 4096), six (n / 64), '=']
  | [a] =>
    let n := a.toNat * 65536
    [six (n / 262144), six (n / 4096), '=', '=']
  | [] => []
where
  /-- The character for the lowest six bits. -/
  six (n : Nat) : Char := sixBits[n % 64]?.getD '='

/-- The bytes for which characters stand, as far as they stand for some, and whether all do. -/
def decodeSixes : Octets → Octets × Bool
  | [] => ([], true)
  | a :: b :: '=' :: '=' :: rest =>
    match six? a, six? b with
    | some a, some b => ([octet (a * 4 + b / 16)], rest.isEmpty)
    | _, _ => ([], false)
  | a :: b :: c :: '=' :: rest =>
    match six? a, six? b, six? c with
    | some a, some b, some c => ([octet (a * 4 + b / 16), octet (b * 16 + c / 4)], rest.isEmpty)
    | _, _, _ => ([], false)
  | a :: b :: c :: d :: rest =>
    match six? a, six? b, six? c, six? d with
    | some a, some b, some c, some d =>
      let (s, all) := decodeSixes rest
      (octet (a * 4 + b / 16) :: octet (b * 16 + c / 4) :: octet (c * 64 + d) :: s, all)
    | _, _, _, _ => ([], false)
  | [a, b, c] =>
    match six? a, six? b, six? c with
    | some a, some b, some c => ([octet (a * 4 + b / 16), octet (b * 16 + c / 4)], false)
    | _, _, _ => ([], false)
  | [a, b] =>
    match six? a, six? b with
    | some a, some b => ([octet (a * 4 + b / 16)], false)
    | _, _ => ([], false)
  | [_] => ([], false)
where
  /-- The bits for which a character stands. -/
  six? (c : Char) : Option Nat := if sixBits.contains c then some (sixBits.idxOf c) else none

/-- A text in lines of a width. -/
def wrapped (width : Nat) : Nat → Octets → Octets
  | 0, s => s
  | _, [] => []
  | fuel + 1, s => s.take width ++ '\n' :: wrapped width fuel (s.drop width)

/-- Writes bytes as letters, digits and marks, or the bytes for which such characters stand. -/
def encodingUtility (s : Setting) : Effect :=
  s.withOptions 1 "di" "w" fun o =>
    let (text, e) := s.gather (o.operands.take 1)
    if e.status ≠ 0 then e
    else if o.has 'd' then
      let text := text.filter fun c => c ≠ '\n' && (!o.has 'i' || sixBits.contains c || c = '=')
      let (out, all) := decodeSixes text
      if all then e.write out else (e.write out).complain 1 (s.complaint "invalid input")
    else
      let width := ((o.value? 'w').bind count?).getD 76
      let out := encodeSixes text
      e.write (if width = 0 then out else wrapped width (out.length + 1) out)

end Conformance.Shell
