import Conformance.Shell.Setting

/-!
# Programs on lines

The programs that choose, order, number or join the lines of what they read.
-/

namespace Conformance.Shell

/-- The lines of a text, each with its end. -/
def splitLines : Octets → List Octets
  | [] => []
  | c :: rest =>
    if c = '\n' then ['\n'] :: splitLines rest
    else
      match splitLines rest with
      | [] => [[c]]
      | l :: ls => (c :: l) :: ls

/-- The text with a line feed at its end, if it holds anything. -/
def closeLine (s : Octets) : Octets :=
  if s.isEmpty || s.getLast? = some '\n' then s else s ++ ['\n']

/-- The lines of a text without their ends. -/
def bareLines (s : Octets) : List Octets := (splitLines (closeLine s)).map List.dropLast

/-- The parts of a text between the characters that are a separator. -/
def between (separator : Char) : Octets → List Octets
  | [] => [[]]
  | c :: rest =>
    match between separator rest with
    | [] => [[c]]
    | f :: fs => if c = separator then [] :: f :: fs else (c :: f) :: fs

/-- The text with blanks in front of it up to a width. -/
def padLeft (width : Nat) (s : Octets) : Octets := List.replicate (width - s.length) ' ' ++ s

/-! ## Whole files -/

/-- A character in a form in which it can be seen. -/
def visible (c : Char) : Octets :=
  let low (n : Nat) : Octets :=
    if n < 32 then ['^', Char.ofNat (n + 64)] else if n = 127 then ['^', '?'] else [Char.ofNat n]
  if c = '\t' then [c] else if c.toNat < 128 then low c.toNat else 'M' :: '-' :: low (c.toNat - 128)

/-- Writes files one behind the other, their lines numbered or their characters made visible if that
is asked for. -/
def concatUtility (s : Setting) : Effect :=
  s.withOptions 1 "AbeEnstTuv" "" fun o =>
    let (text, e) := s.gather o.operands
    let has (cs : String) : Bool := cs.toList.any o.has
    let line (l : Octets) : Octets :=
      let isEnded := l.getLast? = some '\n'
      let body := if isEnded then l.dropLast else l
      let body := if has "Aetv" then body.flatMap visible else body
      let body :=
        if has "AtT" then body.flatMap fun c => if c = '\t' then ['^', 'I'] else [c] else body
      body ++ (if isEnded && has "AeE" then ['$'] else []) ++ if isEnded then ['\n'] else []
    let squeezed (ls : List Octets) : List Octets :=
      let add (l : Octets) (rest : List Octets) : List Octets :=
        if l = ['\n'] && rest.head? = some l then rest else l :: rest
      if has "s" then ls.foldr add [] else ls
    let numbered (ls : List Octets) : List Octets :=
      (ls.foldl (fun (n, done) l =>
        if (has "n" && !has "b") || (has "b" && l ≠ ['\n']) then
          (n + 1, (padLeft 6 (Octets.ofInt n) ++ '\t' :: line l) :: done)
        else (n, line l :: done)) ((1 : Nat), [])).2.reverse
    if o.letters.isEmpty then e.write text
    else e.write (numbered (squeezed (splitLines text))).flatten

/-- The arguments with a count that stands behind a hyphen, or behind a plus sign where that can be,
turned into the value of the option `n`. -/
def bareCount (hasPlus : Bool) : List Octets → List Octets
  | (sign :: d :: n) :: rest =>
    if d.isDigit && sign = '-' then "-n".toList :: (d :: n) :: rest
    else if d.isDigit && sign = '+' && hasPlus then "-n".toList :: (sign :: d :: n) :: rest
    else (sign :: d :: n) :: rest
  | args => args

/-- A count of lines or bytes: a number, which a letter may multiply. -/
def multiplied? (s : Octets) : Option Nat :=
  let digits := s.takeWhile Char.isDigit
  let factor? : Option Nat := match String.ofList (s.drop digits.length) with
    | "" => some 1
    | "b" => some 512
    | "kB" => some 1000
    | "k" | "K" | "KiB" => some 1024
    | "MB" => some 1000000
    | "m" | "M" | "MiB" => some 1048576
    | _ => none
  (count? digits).bind fun n => factor?.map (n * ·)

/-- Writes the first or the last lines or bytes of files. `pick` gets the sign and the number of the
count; `hasPlus` says whether a plus sign alone may stand in front of the count. -/
def someLines (hasPlus : Bool) (pick : Option Char → Nat → List Octets → List Octets)
    (s : Setting) : Effect :=
  Setting.withOptions { s with args := bareCount hasPlus s.args } 1 "qvfz" "nc" fun o =>
    let (isBytes, count) := match o.values.getLast? with
      | some ('c', n) => (true, n)
      | some (_, n) => (false, n)
      | none => (false, "10".toList)
    let (sign, digits) := match count with
      | '-' :: n => (some '-', n)
      | '+' :: n => (some '+', n)
      | n => (none, n)
    match multiplied? digits with
    | none =>
      s.fails 1 ("invalid number of " ++ (if isBytes then "bytes" else "lines") ++ ": '"
        ++ Octets.toText count ++ "'")
    | some n =>
      let (sources, e) := s.sourcesWith 1 (fun path f =>
        if f = .isDirectory then "error reading '" ++ path ++ "': " ++ reasonOf f
        else "cannot open '" ++ path ++ "' for reading: " ++ reasonOf f) o.operands
      let isTitled := (1 < o.operands.length || o.has 'v') && !o.has 'q'
      let texts := sources.zipIdx.map fun ((path, text), i) =>
        let path := if path = ['-'] then "standard input".toList else path
        let title := if !isTitled then [] else
          (if i = 0 then [] else ['\n']) ++ "==> ".toList ++ path ++ " <==\n".toList
        title ++ (pick sign n (if isBytes then text.map ([·]) else splitLines text)).flatten
      e.write texts.flatten

/-- The first lines: as many as asked for, or with a minus sign all but as many. -/
def firstLines (sign : Option Char) (n : Nat) (ls : List Octets) : List Octets :=
  if sign = some '-' then ls.take (ls.length - n) else ls.take n

/-- The last lines: as many as asked for, or with a plus sign those from a number on. -/
def lastLines (sign : Option Char) (n : Nat) (ls : List Octets) : List Octets :=
  if sign = some '+' then ls.drop (n - 1) else ls.drop (ls.length - n)

/-- Writes each line from its end to its start. -/
def reverseUtility (s : Setting) : Effect :=
  let (sources, e) := s.sourcesWith 1 (fun path f => "cannot open " ++ path ++ ": " ++ reasonOf f)
    (s.args.filter (· ≠ "--".toList))
  let turned (l : Octets) : Octets :=
    if l.getLast? = some '\n' then l.dropLast.reverse ++ ['\n'] else l.reverse
  e.write ((splitLines (sources.flatMap (·.2))).flatMap turned)

/-- Writes the lines from the last to the first. -/
def backwardsUtility (s : Setting) : Effect :=
  s.withOptions 1 "br" "s" fun o =>
    let (sources, e) := s.sourcesWith 1 (fun path f =>
      "failed to open '" ++ path ++ "' for reading: " ++ reasonOf f) o.operands
    e.write (sources.flatMap fun (_, text) => (splitLines text).reverse.flatten)

/-! ## Order -/

/-- The order of bytes. -/
def compareOctets : Octets → Octets → Ordering
  | [], [] => .eq
  | [], _ :: _ => .lt
  | _ :: _, [] => .gt
  | a :: s, b :: t => (compare a.toNat b.toNat).then (compareOctets s t)

/-- How keys are ordered. -/
structure KeyOrder where
  isNumeric : Bool
  foldsCase : Bool
  dropsBlanks : Bool
  isReversed : Bool

/-- The order that letters ask for. -/
def KeyOrder.ofLetters (s : Octets) : KeyOrder :=
  ⟨s.contains 'n', s.contains 'f', s.contains 'b', s.contains 'r'⟩

/-- The number at the start of a text, in units of the given count of decimal places. -/
def decimalAt (places : Nat) (s : Octets) : Int :=
  let text := s.dropWhile fun c => c = ' ' || c = '\t'
  let (isNegative, text) := match text with
    | '-' :: rest => (true, rest)
    | text => (false, text)
  let whole := text.takeWhile Char.isDigit
  let part := match text.drop whole.length with
    | '.' :: rest => rest.takeWhile Char.isDigit
    | _ => []
  let n := Nat.ofDigitChars 10 (whole ++ part ++ List.replicate (places - part.length) '0') 0
  if isNegative then -(n : Int) else n

/-- Compares keys. -/
def KeyOrder.compare (k : KeyOrder) (a b : Octets) : Ordering :=
  let trim (s : Octets) : Octets :=
    if k.dropsBlanks then s.dropWhile fun c => c = ' ' || c = '\t' else s
  let fold (s : Octets) : Octets := if k.foldsCase then s.map Char.toUpper else s
  let places := a.length + b.length
  let order := if k.isNumeric then Ord.compare (decimalAt places a) (decimalAt places b)
    else compareOctets (fold (trim a)) (fold (trim b))
  if k.isReversed then order.swap else order

/-- A part of each line by which lines are ordered: its first and last field, and its order if it
has one of its own. -/
structure SortKey where
  first : Nat
  last : Option Nat
  order : Option KeyOrder

/-- Reads a part by which lines are ordered. -/
def SortKey.ofText? (s : Octets) : Option SortKey :=
  let start := s.takeWhile (· ≠ ',')
  let stop := (s.drop start.length).drop 1
  let letters (s : Octets) : Octets := s.filter Char.isAlpha
  let field? (s : Octets) : Option Nat := count? (s.takeWhile Char.isDigit)
  let own := letters start ++ letters stop
  (field? start).bind fun n =>
    if n = 0 then none
    else some ⟨n, field? stop, if own.isEmpty then none else some (KeyOrder.ofLetters own)⟩

/-- The fields of a line: between separators, or each with the blanks in front of it. -/
def sortFields (separator : Option Char) (l : Octets) : List Octets :=
  match separator with
  | some c => between c l
  | none => blankFields (l.length + 1) l
where
  /-- Fields that begin where blanks begin. -/
  blankFields : Nat → Octets → List Octets
    | 0, _ | _, [] => []
    | fuel + 1, s =>
      let isBlank (c : Char) : Bool := c = ' ' || c = '\t'
      let blanks := s.takeWhile isBlank
      let word := (s.drop blanks.length).takeWhile (!isBlank ·)
      (blanks ++ word) :: blankFields fuel (s.drop (blanks.length + word.length))

/-- The part of a line that a key names. -/
def SortKey.part (k : SortKey) (separator : Option Char) (l : Octets) : Octets :=
  let fields := (sortFields separator l).drop (k.first - 1)
  let fields := match k.last with
    | some n => fields.take (n + 1 - k.first)
    | none => fields
  match separator with
  | some c => [c].intercalate fields
  | none => fields.flatten

/-- Sorts lines by keys, and those with the same keys by all their bytes. -/
def sortUtility (s : Setting) : Effect :=
  s.withOptions 2 "bdfghiMnRrscCuV" "kto" fun o =>
    let keys := (o.values.filter (·.1 = 'k')).map (·.2)
    match keys.mapM SortKey.ofText?, o.value? 't' with
    | none, _ =>
      let bad := Octets.toText ((keys.find? fun k => (SortKey.ofText? k).isNone).getD [])
      s.fails 2 ("invalid number at field start: invalid count at start of '" ++ bad ++ "'")
    | _, some (a :: b :: c) =>
      s.fails 2 ("multi-character tab '" ++ Octets.toText (a :: b :: c) ++ "'")
    | some keys, separator =>
      let separator := separator.bind List.head?
      let (sources, e) := s.sourcesWith 2 (fun path f =>
        "cannot read: " ++ path ++ ": " ++ reasonOf f) o.operands
      let overall := KeyOrder.ofLetters o.letters
      let keys := if keys.isEmpty then [⟨1, none, none⟩] else keys
      let byKeys (a b : Octets) : Ordering := keys.foldl (fun order k =>
        order.then ((k.order.getD overall).compare (k.part separator a) (k.part separator b))) .eq
      let byBytes (a b : Octets) : Ordering :=
        if o.has 's' || o.has 'u' then .eq
        else if overall.isReversed then (compareOctets a b).swap else compareOctets a b
      let ls := (sources.flatMap fun (_, text) => bareLines text).mergeSort fun a b =>
        (byKeys a b).then (byBytes a b) != .gt
      let distinct (ls : List Octets) : List Octets :=
        (ls.foldl (fun done l => match done with
          | d :: _ => if byKeys d l = .eq then done else l :: done
          | [] => [l]) []).reverse
      let ls := if o.has 'u' then distinct ls else ls
      if e.status = 0 then e.write (ls.flatMap (· ++ ['\n'])) else e

/-- Writes lines that are equal to the one in front of them only once. -/
def distinctUtility (s : Setting) : Effect :=
  s.withOptions 1 "cduiz" "fsw" fun o =>
    match o.operands with
    | _ :: _ :: extra :: _ => s.misused 1 ("extra operand '" ++ Octets.toText extra ++ "'")
    | operands =>
      let (text, e) := s.gather (operands.take 1)
      let same (a b : Octets) : Bool :=
        if o.has 'i' then a.map Char.toLower = b.map Char.toLower else a = b
      let groups := (bareLines text).foldl (fun (done : List (Octets × Nat)) l =>
        match done with
        | (d, n) :: rest => if same d l then (d, n + 1) :: rest else (l, 1) :: done
        | [] => [(l, 1)]) []
      let wanted :=
        groups.reverse.filter fun g => (!o.has 'd' || 1 < g.2) && (!o.has 'u' || g.2 = 1)
      let shown := wanted.map fun (l, n) =>
        if o.has 'c' then padLeft 7 (Octets.ofInt n) ++ ' ' :: l else l
      if e.status = 0 then e.write (shown.flatMap (· ++ ['\n'])) else e

/-! ## Parts and numbers of lines -/

/-- A range of positions, with no end if it goes on. -/
abbrev Span := Nat × Option Nat

/-- Reads ranges with commas between them. -/
def spans (noun : String) (list : Octets) : Except String (List Span) :=
  (between ',' list).mapM fun p =>
    let low := p.takeWhile (· ≠ '-')
    let high := (p.drop low.length).drop 1
    let isRange := p.contains '-'
    let number (s : Octets) : Except String Nat :=
      match count? s with
      | some n => .ok n
      | none => .error ("invalid " ++ noun ++ " value '" ++ Octets.toText s ++ "'")
    do
      if isRange && low.isEmpty && high.isEmpty then throw "invalid range with no endpoint: -"
      let a ← if low.isEmpty && isRange then pure 1 else number low
      let b ← if !isRange then pure (some a)
        else if high.isEmpty then pure none
        else (number high).map some
      if a = 0 then
        throw (if noun = "field" then "fields are numbered from 1"
          else "byte/character positions are numbered from 1")
      match b with
      | some b => if b < a then throw "invalid decreasing range" else return (a, some b)
      | none => return (a, none)

/-- Is a position in one of the ranges? -/
def inSpans (ss : List Span) (n : Nat) : Bool :=
  ss.any fun (a, b) => decide (a ≤ n) && (b.map fun b => decide (n ≤ b)).getD true

/-- Writes parts of each line: bytes, or fields between separators. -/
def cutUtility (s : Setting) : Effect :=
  s.withOptions 1 "sn" "bcfd" fun o =>
    let lists := o.values.filter (·.1 ≠ 'd')
    let separator := o.value? 'd'
    match lists with
    | [] => s.misused 1 "you must specify a list of bytes, characters, or fields"
    | _ :: _ :: _ => s.misused 1 "only one list may be specified"
    | [(kind, list)] =>
      let isFields := kind = 'f'
      if ((separator.map List.length).getD 1) ≠ 1 then
        s.misused 1 "the delimiter must be a single character"
      else if !isFields && separator.isSome then
        s.misused 1 "an input delimiter may be specified only when operating on fields"
      else
        match spans (if isFields then "field" else "byte/character position") list with
        | .error reason => s.misused 1 reason
        | .ok ss =>
          let (text, e) := s.gather o.operands
          let separator := (separator.bind List.head?).getD '\t'
          let pick (l : Octets) : Option Octets :=
            if !isFields then
              some (l.zipIdx.filterMap fun (c, i) => if inSpans ss (i + 1) then some c else none)
            else if l.contains separator then
              some ([separator].intercalate ((between separator l).zipIdx.filterMap fun (f, i) =>
                if inSpans ss (i + 1) then some f else none))
            else if o.has 's' then none
            else some l
          e.write (((bareLines text).filterMap pick).flatMap (· ++ ['\n']))

/-- Writes lines with their numbers. -/
def numberUtility (s : Setting) : Effect :=
  s.withOptions 1 "p" "bdfhilnsvw" fun o =>
    let (text, e) := s.gather o.operands
    let numberOr (c : Char) (n : Nat) : Nat := ((o.value? c).bind count?).getD n
    let width := numberOr 'w' 6
    let separator := (o.value? 's').getD ['\t']
    let isAll := o.value? 'b' = some ['a']
    let isNone := o.value? 'b' = some ['n']
    let shown := (bareLines text).foldl (fun (n, done) l =>
      if isAll || (!l.isEmpty && !isNone) then
        (n + numberOr 'i' 1, (padLeft width (Octets.ofInt n) ++ separator ++ l) :: done)
      else (n, (List.replicate (width + separator.length) ' ' ++ l) :: done)) (numberOr 'v' 1, [])
    e.write (shown.2.reverse.flatMap (· ++ ['\n']))

/-- Lines beside each other, with separators that take turns between them. -/
def besides (separators : Octets) (row : List Octets) : Octets :=
  row.zipIdx.flatMap fun (l, i) =>
    if i = 0 then l
    else
      match separators[(i - 1) % separators.length]? with
      | some c => c :: l
      | none => l

/-- Writes lines of files beside each other, or all lines of a file in one. -/
def pasteUtility (s : Setting) : Effect :=
  s.withOptions 1 "sz" "d" fun o =>
    let separators :=
      (unescape (((o.value? 'd').getD ['\t']).length + 1) ((o.value? 'd').getD ['\t'])).1
    let operands := if o.operands.isEmpty then [['-']] else o.operands
    let (sources, e) := s.sources (operands.filter (· ≠ ['-']))
    if e.status ≠ 0 then e
    else
      let readers := operands.filter (· = ['-']) |>.length
      let inputLines := bareLines s.input
      let columns : List (List Octets) := operands.zipIdx.map fun (p, i) =>
        if p = ['-'] then
          let rank := ((operands.take i).filter (· = ['-'])).length
          if o.has 's' then (if rank = 0 then inputLines else [])
          else (inputLines.zipIdx.filter fun (_, k) => k % readers = rank).map (·.1)
        else ((sources.find? (·.1 = p)).map fun (_, text) => bareLines text).getD []
      let rows : List (List Octets) :=
        if o.has 's' then columns
        else
          let height := (columns.map List.length).foldl max 0
          (List.range height).map fun i => columns.map fun column => column[i]?.getD []
      let e : Effect := { e with input := if readers = 0 then s.input else [] }
      e.write (rows.flatMap fun row => besides separators row ++ ['\n'])

end Conformance.Shell
