import Conformance.Text.Columns
import Conformance.Text.Emoji

/-!
# Sequences

Some characters take other columns in front of certain others: letters that are written as one sign,
and emoji that are joined. `Behind` is what has to be known of the text behind a character for that,
and `Behind.add` says how many columns the character adds and what then stands behind the next one.
-/

namespace Conformance.Text

/-- A character, or the start of a sequence, that changes the columns of what stands in front of it.
-/
inductive Follower where
  | plain
  /-- Arabic alef. -/
  | alef
  /-- Hebrew lamed. -/
  | lamed
  /-- A Khmer letter that has a form below the line. -/
  | subjoinable
  /-- Buginese ya. -/
  | ya
  /-- The Buginese vowel sign i, joined to ya. -/
  | vowelYa
  /-- A Tifinagh consonant. -/
  | consonant
  /-- A Tifinagh consonant and the sign that joins it to another. -/
  | joinedConsonant
  /-- A Lisu tone letter that comes second. -/
  | tone
  /-- Old Turkic i. -/
  | orkhonI
  /-- Kirat Rai e. -/
  | vowelE
  /-- Kirat Rai ai. -/
  | vowelAi
  /-- A skin tone. -/
  | modifier
  /-- An emoji. -/
  | emoji
  /-- A joiner and an emoji. -/
  | joinedEmoji
  /-- The frame of a keycap, joined to an emoji. -/
  | keycap
  /-- So many letters of flags. -/
  | flags (letters : Nat)
  /-- So many letters of flags, joined to an emoji. -/
  | joinedFlags (letters : Nat)
  /-- The end of the tags of a flag that is joined to an emoji, behind `letters` letters and
  `digits` digits. -/
  | tags (letters digits : Nat)
  deriving Repr, DecidableEq

/-- Does a selector that stands between leave the follower in force? -/
def Follower.isLetter : Follower → Bool
  | .alef | .lamed | .subjoinable | .ya | .vowelYa | .consonant | .joinedConsonant | .tone
  | .orkhonI => true
  | _ => false

/-- What stands behind a character: a follower, and the selectors in front of it that say how a
character is to be drawn. -/
structure Behind where
  follower : Follower := .plain
  /-- Does a joiner stand in front of the follower? -/
  joined : Bool := false
  /-- Is an emoji asked for? -/
  emoji : Bool := false
  /-- Is text asked for? -/
  text : Bool := false
  /-- Is a wide quotation mark asked for? -/
  wide : Bool := false
  deriving Repr, DecidableEq

/-- The follower that a code point is. -/
def Follower.ofCode (n : Nat) : Follower :=
  if n = 0x5DC then .lamed
  else if [0x622, 0x623, 0x625, 0x627, 0x671, 0x672, 0x673, 0x675, 0x773, 0x774].contains n
      || (0x870 ≤ n && n ≤ 0x882) then .alef
  else if 0x1780 ≤ n && n ≤ 0x17AF && !([0x1783, 0x1788, 0x178D, 0x1794, 0x1799, 0x179A, 0x179E,
      0x179F, 0x17A1].contains n || (0x17A3 ≤ n && n ≤ 0x17A6) || (0x17A8 ≤ n && n ≤ 0x17AA)
      || n = 0x17AD || n = 0x17AE) then .subjoinable
  else if n = 0x1A10 then .ya
  else if (0x2D31 ≤ n && n ≤ 0x2D65) || n = 0x2D6F then .consonant
  else if n = 0xA4FC || n = 0xA4FD then .tone
  else if n = 0x10C03 then .orkhonI
  else if n = 0x16D67 then .vowelE
  else if n = 0x16D68 then .vowelAi
  else if isFlagLetter n then .flags 1
  else if isModifier n then .modifier
  else if isEmoji n then .emoji
  else .plain

/-- Is the code point Arabic lam, which is written as one with an alef behind it? -/
def isLam (n : Nat) : Bool :=
  [0x644, 0x6B5, 0x6B6, 0x6B7, 0x6B8, 0x76A, 0x8A6, 0x8C7].contains n

/-- Code points without a column that keep an Arabic letter in front of them from the one behind. -/
def partingMarks : Array (Nat × Nat) := #[
  (0x605, 0x605), (0x890, 0x891), (0x8E2, 0x8E2), (0x9BE, 0x9BE), (0x9D7, 0x9D7), (0xB3E, 0xB3E),
  (0xB57, 0xB57), (0xBBE, 0xBBE), (0xBD7, 0xBD7), (0xCC0, 0xCC0), (0xCC2, 0xCC2), (0xCC7, 0xCC8),
  (0xCCA, 0xCCB), (0xCD5, 0xCD6), (0xD3E, 0xD3E), (0xD4E, 0xD4E), (0xD57, 0xD57), (0xDCF, 0xDCF),
  (0xDDF, 0xDDF), (0x1160, 0x11FF), (0x1715, 0x1715), (0x1734, 0x1734), (0x180E, 0x180E),
  (0x1B35, 0x1B35), (0x1B3B, 0x1B3B), (0x1B3D, 0x1B3D), (0x1B43, 0x1B44), (0x1BAA, 0x1BAA),
  (0x1BF2, 0x1BF3), (0x200C, 0x200D), (0x2065, 0x2069), (0x302E, 0x302F), (0x3164, 0x3164),
  (0xA8FA, 0xA8FA), (0xA953, 0xA953), (0xA9C0, 0xA9C0), (0xD7B0, 0xD7C6), (0xD7CB, 0xD7FB),
  (0xFF9E, 0xFFA0), (0xFFF0, 0xFFF8), (0x111C0, 0x111C0), (0x111C2, 0x111C3), (0x11235, 0x11235),
  (0x1133E, 0x1133E), (0x1134D, 0x1134D), (0x11357, 0x11357), (0x113B8, 0x113B8),
  (0x113C2, 0x113C2), (0x113C5, 0x113C5), (0x113C7, 0x113C9), (0x113CF, 0x113CF),
  (0x113D1, 0x113D1), (0x114B0, 0x114B0), (0x114BD, 0x114BD), (0x115AF, 0x115AF),
  (0x116B6, 0x116B6), (0x11930, 0x11930), (0x1193D, 0x1193D), (0x1193F, 0x1193F),
  (0x11941, 0x11941), (0x11A84, 0x11A89), (0x11D46, 0x11D46), (0x11F02, 0x11F02),
  (0x11F41, 0x11F41), (0x16FF0, 0x16FF1), (0x1D165, 0x1D166), (0x1D16D, 0x1D172),
  (0xE0000, 0xE0000), (0xE0002, 0xE001F), (0xE0080, 0xE00FF), (0xE01F0, 0xE0FFF)]

/-- Does the code point take no part in how letters are joined? -/
def isPassedOver (n : Nat) : Bool :=
  n = 0x34F || n = 0x17B4 || n = 0x17B5 || (0x180B ≤ n && n ≤ 0x180D) || n = 0x180F
    || (0xFE00 ≤ n && n ≤ 0xFE0D) || (0xE0100 ≤ n && n ≤ 0xE01EF)

/-- The columns that a letter adds in front of another with which it is written as one, and what the
two are together. -/
def Follower.ligature? (f : Follower) (joined : Bool) (n : Nat) : Option (Int × Follower) :=
  match f with
  | .alef =>
    if isLam n then some (0, .plain)
    else if columns n = 0 && !memRanges partingMarks n then some (0, .alef)
    else none
  | .lamed => if joined && n = 0x5D0 then some (0, .plain) else none
  | .subjoinable => if n = 0x17D2 then some (-1, .plain) else none
  | .ya => if joined && n = 0x1A17 then some (0, .vowelYa) else none
  | .vowelYa => if n = 0x1A15 then some (0, .plain) else none
  | .consonant =>
    if n = 0x2D7F then some (1, .joinedConsonant)
    else if joined && Follower.ofCode n = .consonant then some (0, .plain)
    else none
  | .joinedConsonant => if Follower.ofCode n = .consonant then some (-1, .plain) else none
  | .tone => if 0xA4F8 ≤ n && n ≤ 0xA4FB then some (0, .plain) else none
  | .orkhonI => if joined && n = 0x10C32 then some (0, .plain) else none
  | .vowelE =>
    if n = 0x16D63 || n = 0x16D69 then some (0, .plain)
    else if n = 0x16D67 then some (0, .vowelAi)
    else if n = 0x16D68 then some (1, .vowelE)
    else none
  | .vowelAi => if n = 0x16D63 then some (0, .plain) else none
  | _ => none

/-- The columns that a character adds in front of an emoji whose sequence it belongs to, and what
the two are together. -/
def Follower.emojiSequence? (f : Follower) (n : Nat) : Option (Int × Follower) :=
  match f with
  | .emoji => if n = 0x200D then some (0, .joinedEmoji) else none
  | .modifier =>
    if n = 0x200D then some (0, .joinedEmoji)
    else if isModifierBase n then some (0, .emoji)
    else none
  | .flags letters =>
    if isFlagLetter n then some (1, .flags (letters + 1))
    else if n = 0x200D && 2 ≤ letters then some (0, .joinedEmoji)
    else none
  | .joinedEmoji =>
    if n = 0x20E3 then some (0, .keycap)
    else if isFlagLetter n then some (1, .joinedFlags 1)
    else if isModifier n then some (0, .modifier)
    else if n = 0xE007F then some (0, .tags 0 0)
    else if isEmoji n then some (0, .emoji)
    else none
  | .joinedFlags letters =>
    if isFlagLetter n then some (if letters % 2 = 0 then 3 else -1, .joinedFlags (letters + 1))
    else if n = 0x200D && 2 ≤ letters then some (0, .joinedEmoji)
    else none
  | .tags letters digits =>
    if digits = 0 && letters < 6 && 0xE0061 ≤ n && n ≤ 0xE007A then some (0, .tags (letters + 1) 0)
    else if letters < 5 && digits < 3 && 0xE0030 ≤ n && n ≤ 0xE0039 then
      some (0, .tags letters (digits + 1))
    else if n = 0x1F3F4 && (digits = 3 || (digits = 0 && 3 ≤ letters)) then some (0, .emoji)
    else none
  | _ => none

/-- What of `b` a selector leaves in force. -/
def Behind.kept (b : Behind) : Behind := if b.follower.isLetter then b else {}

/-- The columns that a code point adds in front of `b`, and what then stands behind the next one. -/
def Behind.add (b : Behind) (n : Nat) : Int × Behind :=
  if b.emoji && isEmojiBase n then
    let joins := b.follower = .joinedEmoji || (b.follower = .keycap && n < 0x40)
    (if joins then 0 else 2, { follower := .emoji })
  else
    let b := if b.emoji then { b.kept with emoji := false } else b
    if n < 0xAD then (1, {})
    else if n = 0xFE0F then
      let joins := b.follower = .joinedEmoji || b.follower = .keycap
      (0, { (if joins then b else b.kept) with emoji := true })
    else if n = 0xFE0E then (0, { b.kept with text := true })
    else if n = 0xFE01 then (0, { b.kept with wide := true })
    else if b.text && isTextBase n then (1, {})
    else if b.wide && !b.text && [0x2018, 0x2019, 0x201C, 0x201D].contains n then (2, {})
    else
      -- One selector at a time loses its force.
      let b := if b.text then { b with text := false } else { b with wide := false }
      let loose := b.follower.isLetter && b.follower ≠ .alef
      if loose && n = 0x200D then (0, { b with joined := true })
      else if loose && isPassedOver n then (0, b)
      else
        match if b.wide then none else b.follower.ligature? b.joined n,
            b.follower.emojiSequence? n with
        | some (w, f), _ | none, some (w, f) => (w, { follower := f })
        | none, none => (columns n, { follower := .ofCode n })

end Conformance.Text
