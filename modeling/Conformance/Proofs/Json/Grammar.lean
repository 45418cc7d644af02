import Conformance.Proofs.Json.Continued

/-!
# The grammar of documents

Which texts are JSON is said here without the trees that they write: a number is a number, whatever
double comes of it. What each part of the reader takes from a text has its place in the grammar
(`Takes`), so every text that the reader accepts is a document that nests no deeper than the reader
allows (`document_of_read`).
-/

namespace Conformance.Json

section Grammar

/-- Decimal digits, at least one. -/
def DigitsText (s : List Char) : Prop := s ≠ [] ∧ ∀ c ∈ s, c.isDigit = true

/-- The whole part of a number: a zero, or digits of which a zero is not the first. -/
def WholeText (s : List Char) : Prop := s = ['0'] ∨ DigitsText s ∧ s.head? ≠ some '0'

/-- A point with digits behind it, or nothing. -/
def FractionText (s : List Char) : Prop := s = [] ∨ ∃ ds, DigitsText ds ∧ s = '.' :: ds

/-- Digits behind a sign or none. -/
def SignedText (s : List Char) : Prop :=
  ∃ sign ds, sign ∈ [[], ['+'], ['-']] ∧ DigitsText ds ∧ s = sign ++ ds

/-- The letter of an exponent with its digits behind it, or nothing. -/
def ExponentText (s : List Char) : Prop :=
  s = [] ∨ ∃ t, SignedText t ∧ (s = 'e' :: t ∨ s = 'E' :: t)

/-- What stands behind the whole part of a number. -/
inductive TailText : List Char → Prop
  | parts {fraction exponent : List Char} (hf : FractionText fraction)
      (he : ExponentText exponent) : TailText (fraction ++ exponent)

/-- A number without a sign in front. -/
inductive NumberText : List Char → Prop
  | parts {whole tail : List Char} (hw : WholeText whole) (ht : TailText tail) :
      NumberText (whole ++ tail)

/-- A value without brackets. -/
inductive ScalarText : List Char → Prop
  | null : ScalarText "null".toList
  | bool (b : Bool) : ScalarText (toString b).toList
  | number {s : List Char} (h : NumberText s) : ScalarText s
  | negative {s : List Char} (h : NumberText s) : ScalarText ('-' :: s)
  | string {text : String} {s : List Char} (h : StringText text s) : ScalarText s

variable (P : List Char → Prop)

/-- Texts of a kind, at least one, with commas between them and blanks around each. -/
inductive ListedText : List Char → Prop
  | one {a s b : List Char} (ha : Blank a) (h : P s) (hb : Blank b) : ListedText (a ++ (s ++ b))
  | cons {a s b t : List Char} (ha : Blank a) (h : P s) (hb : Blank b) (ht : ListedText t) :
      ListedText (a ++ (s ++ (b ++ ',' :: t)))

/-- Two brackets with texts of a kind between them, or with blanks only. -/
inductive BracketText (opening closing : Char) : List Char → Prop
  | empty {a : List Char} (ha : Blank a) : BracketText opening closing (opening :: (a ++ [closing]))
  | listed {s : List Char} (h : ListedText P s) :
      BracketText opening closing (opening :: (s ++ [closing]))

/-- A key and a text of a kind. -/
inductive KeyedText : List Char → Prop
  | colon {k : String} {s a b t : List Char} (hk : StringText k s) (ha : Blank a) (hb : Blank b)
      (h : P t) : KeyedText (s ++ (a ++ ':' :: (b ++ t)))

/-- A value in which arrays and objects nest at most so deep. -/
def ValueText : Nat → List Char → Prop
  | 0, s => ScalarText s
  | n + 1, s => ScalarText s ∨ BracketText (ValueText n) '[' ']' s
    ∨ BracketText (KeyedText (ValueText n)) '\x7b' '\x7d' s

/-- A whole text that is a value with blanks around it. -/
def DocumentText (depth : Nat) (text : String) : Prop :=
  ∃ a s b, Blank a ∧ ValueText depth s ∧ Blank b ∧ text.toList = a ++ (s ++ b)

end Grammar

/-- What the reader takes from the front of a text is of the kind. -/
def Takes {α : Type} (P : List Char → Prop) (read : List Char → Except Fault (α × List Char)) :
    Prop :=
  ∀ ⦃s a rest⦄, read s = .ok (a, rest) → ∃ t, P t ∧ s = t ++ rest

variable {s rest : List Char}

section Numbers

variable {negative : Bool} {bound value used dropped : Nat} {start : Int} {v : Json} {c : Char}

theorem isSome_digit? (c : Char) : (digit? c).isSome = c.isDigit := by
  by_cases hc : c.isDigit = true
  · rw [digit?_of_isDigit hc, hc]
    rfl
  · have hrange : ¬ ('0' ≤ c ∧ c ≤ '9') := by
      simp only [Char.isDigit, Bool.and_eq_true, decide_eq_true_eq] at hc
      exact hc
    rw [digit?, if_neg hrange, Bool.eq_false_iff.2 hc]
    rfl

theorem dropDigits_snd : ∀ {s : List Char} {dropped : Nat},
    (dropDigits dropped s).2 = s.dropWhile Char.isDigit
  | [], _ => rfl
  | c :: s, dropped => by
    rw [dropDigits, isSome_digit?, List.dropWhile_cons]
    split
    · exact dropDigits_snd
    · rfl

theorem rest_readDigits : ∀ {s : List Char} {value used : Nat},
    (readDigits bound value used s).rest = s.dropWhile Char.isDigit
  | [], _, _ => rfl
  | c :: s, value, used => by
    have hc := isSome_digit? c
    rw [readDigits, List.dropWhile_cons]
    rcases hd : digit? c with _ | d <;> rw [hd] at hc
    · rw [← hc]
      rfl
    · rw [← hc]
      simp only [Option.isSome_some, if_true]
      split
      · exact rest_readDigits
      · exact dropDigits_snd

theorem digits_of_readDigits (hc : c.isDigit = true) : ∃ ds, DigitsText (c :: ds)
    ∧ c :: s = (c :: ds) ++ (readDigits bound value used (c :: s)).rest := by
  have hsplit := (List.takeWhile_append_dropWhile (p := Char.isDigit) (l := c :: s)).symm
  rw [List.takeWhile_cons_of_pos hc] at hsplit
  refine ⟨s.takeWhile Char.isDigit, ⟨List.cons_ne_nil _ _, fun d hd => ?_⟩, ?_⟩
  · rcases List.mem_cons.1 hd with rfl | hd
    · exact hc
    · exact List.mem_takeWhile_imp hd
  · rw [rest_readDigits]
    exact hsplit

theorem takes_exponentDigits {down : Bool} :
    Takes DigitsText (exponentDigits negative value start down) := by
  intro s v rest h
  rcases s with _ | ⟨c, s⟩
  · cases h
  simp only [exponentDigits] at h
  by_cases hc : (digit? c).isNone = true
  · rw [if_pos hc] at h
    cases h
  rw [if_neg hc] at h
  rw [Bool.not_eq_true, Option.isNone_eq_false_iff, isSome_digit?] at hc
  obtain ⟨ds, hds, hs⟩ := @digits_of_readDigits s maxExponent 0 0 c hc
  generalize readDigits maxExponent 0 0 (c :: s) = e at h hs
  refine ⟨c :: ds, hds, ?_⟩
  by_cases hdropped : e.dropped = 0
  · rw [if_pos hdropped] at h
    rw [(double?_eq_ok_iff.1 h).1]
    exact hs
  · rw [if_neg hdropped] at h
    split_ifs at h
    cases h
    exact hs

theorem exponentSign_append_eq (s : List Char) :
    ∃ sign ∈ [[], ['+'], ['-']], s = sign ++ (exponentSign s).2 := by
  unfold exponentSign
  split
  · exact ⟨['+'], by simp, rfl⟩
  · exact ⟨['-'], by simp, rfl⟩
  · exact ⟨[], by simp, rfl⟩

theorem takes_exponentPart : Takes SignedText (exponentPart negative value start) := by
  intro s v rest h
  rw [exponentPart_eq] at h
  obtain ⟨sign, hsign, hs⟩ := exponentSign_append_eq s
  obtain ⟨ds, hds, hrest⟩ := takes_exponentDigits h
  exact ⟨sign ++ ds, ⟨sign, ds, hsign, hds, rfl⟩, by rw [List.append_assoc, ← hrest]; exact hs⟩

theorem ExponentText.tail {t : List Char} (h : ExponentText t) : TailText t :=
  .parts (.inl rfl) h

theorem takes_fractionPart :
    Takes (fun t => TailText ('.' :: t)) (fractionPart negative value start) := by
  intro s v rest h
  unfold fractionPart at h
  simp only at h
  split_ifs at h with hnone
  · rcases s with _ | ⟨c, s⟩ <;> cases h
  -- a digit is there, since something was read
  obtain ⟨c, s, rfl, hc⟩ : ∃ c s', s = c :: s' ∧ c.isDigit = true := by
    rcases s with _ | ⟨c, s⟩
    · exact absurd rfl hnone
    · refine ⟨c, s, rfl, ?_⟩
      by_contra hc
      rw [← isSome_digit?, Bool.not_eq_true, Option.isSome_eq_false_iff,
        Option.isNone_iff_eq_none] at hc
      simp [readDigits, hc] at hnone
  obtain ⟨ds, hds, hs⟩ := @digits_of_readDigits s maxWord value 0 c hc
  generalize readDigits maxWord value 0 (c :: s) = d at h hs
  have hfraction : FractionText ('.' :: c :: ds) := .inr ⟨c :: ds, hds, rfl⟩
  split at h
  · rename_i left hleft
    obtain ⟨t, ht, rfl⟩ := takes_exponentPart h
    exact ⟨(c :: ds) ++ 'e' :: t, .parts hfraction (.inr ⟨t, ht, .inl rfl⟩),
      by simpa [hleft] using hs⟩
  · rename_i left hleft
    obtain ⟨t, ht, rfl⟩ := takes_exponentPart h
    exact ⟨(c :: ds) ++ 'E' :: t, .parts hfraction (.inr ⟨t, ht, .inr rfl⟩),
      by simpa [hleft] using hs⟩
  · rw [(double?_eq_ok_iff.1 h).1]
    have htail : TailText ('.' :: c :: ds ++ []) := .parts hfraction (.inl rfl)
    rw [List.append_nil] at htail
    exact ⟨c :: ds, htail, hs⟩

theorem takes_afterWhole : Takes TailText (afterWhole negative value dropped) := by
  intro s v rest h
  have hwhole : wholeNumber negative value dropped s = .ok (v, rest) →
      ∃ t, TailText t ∧ s = t ++ rest := fun h =>
    ⟨[], ExponentText.tail (.inl rfl), (wholeNumber_leaves h).symm⟩
  rcases s with _ | ⟨c, s⟩
  · exact hwhole h
  by_cases hpoint : c = '.'
  · subst hpoint
    obtain ⟨t, ht, rfl⟩ := takes_fractionPart h
    exact ⟨'.' :: t, ht, rfl⟩
  by_cases hlower : c = 'e'
  · subst hlower
    obtain ⟨t, ht, rfl⟩ := takes_exponentPart h
    exact ⟨'e' :: t, ExponentText.tail (.inr ⟨t, ht, .inl rfl⟩), rfl⟩
  by_cases hupper : c = 'E'
  · subst hupper
    obtain ⟨t, ht, rfl⟩ := takes_exponentPart h
    exact ⟨'E' :: t, ExponentText.tail (.inr ⟨t, ht, .inr rfl⟩), rfl⟩
  rw [afterWhole_of_ne hpoint hlower hupper] at h
  exact hwhole h

theorem takes_readNumber : Takes NumberText (readNumber negative) := by
  intro s v rest h
  rcases s with _ | ⟨c, s⟩
  · cases h
  by_cases hzero : c = '0'
  · subst hzero
    have hafter : afterWhole negative 0 0 s = .ok (v, rest) := by
      rcases s with _ | ⟨d, s⟩
      · exact h
      · simp only [readNumber] at h
        split_ifs at h
        exact h
    obtain ⟨t, ht, rfl⟩ := takes_afterWhole hafter
    exact ⟨_, .parts (.inl rfl) ht, rfl⟩
  · rw [readNumber.eq_4 _ _ _ hzero] at h
    split_ifs at h with hc
    rw [isSome_digit?] at hc
    obtain ⟨ds, hds, hs⟩ := @digits_of_readDigits s maxWord 0 0 c hc
    obtain ⟨t, ht, hrest⟩ := takes_afterWhole h
    refine ⟨_, .parts (.inr ⟨hds, fun hhead => hzero (Option.some.inj hhead)⟩) ht, ?_⟩
    rw [hrest] at hs
    rw [List.append_assoc]
    exact hs

end Numbers

section Strings

variable {high : Option Nat} {start cs : List Char} {value left d n : Nat} {c : Char}

theorem hexDigit_of_hexValue? (h : hexValue? c = some d) : HexDigit d c := by
  have hall : ∀ n < 103, (hexValue? (Char.ofNat n)).all
      (fun d => d < 16 ∧ (Char.ofNat n = d.digitChar ∨ Char.ofNat n = d.digitChar.toUpper))
        = true := by decide +kernel
  -- the last digit in this order is the letter f
  have hlt : c.toNat < 103 := by
    by_contra hge
    have hnone : ∀ x : Char, x.toNat < 103 → ¬ c ≤ x := fun x hx hc =>
      hge (Nat.lt_of_le_of_lt (UInt32.le_iff_toNat_le.1 hc) hx)
    simp [hexValue?, hnone '9' (by decide), hnone 'f' (by decide), hnone 'F' (by decide)] at h
  have hdigit := hall c.toNat hlt
  rw [Char.ofNat_toNat, h, Option.all_some, decide_eq_true_eq] at hdigit
  exact hdigit

theorem UnitText.lt {s : List Char} (h : UnitText n s) : n < 0x10000 := by
  obtain ⟨⟨hw, -⟩, ⟨hx, -⟩, ⟨hy, -⟩, ⟨hz, -⟩⟩ := h
  omega

theorem digit_of_stringBody (hleft : 1 < left)
    (h : stringBody (.unit high start value left) s = .ok (cs, rest)) :
    ∃ d c t, HexDigit d c ∧ s = c :: t
      ∧ stringBody (.unit high start (value * 16 + d) (left - 1)) t = .ok (cs, rest) := by
  rcases s with _ | ⟨c, t⟩
  · cases h
  rw [stringBody] at h
  rcases hd : hexValue? c with _ | d <;> simp only [hd] at h
  · cases h
  · rw [if_neg (Nat.not_le.2 hleft)] at h
    exact ⟨d, c, t, hexDigit_of_hexValue? hd, rfl, h⟩

/-- Four digits are taken, and then their unit is finished. -/
theorem unit_of_stringBody (h : stringBody (.unit high start 0 4) s = .ok (cs, rest)) :
    ∃ n u t, UnitText n u ∧ s = u ++ t
      ∧ ((∃ c, finishUnit high n = .ok (.inl c)
          ∧ consChar c (stringBody .plain t) = .ok (cs, rest))
        ∨ ∃ half, finishUnit high n = .ok (.inr half)
          ∧ stringBody (.secondSlash half) t = .ok (cs, rest)) := by
  obtain ⟨w, a, t₁, hw, rfl, h₁⟩ := digit_of_stringBody (by decide) h
  obtain ⟨x, b, t₂, hx, rfl, h₂⟩ := digit_of_stringBody (by decide) h₁
  obtain ⟨y, c, t₃, hy, rfl, h₃⟩ := digit_of_stringBody (by decide) h₂
  rcases t₃ with _ | ⟨d, t⟩
  · cases h₃
  rw [stringBody] at h₃
  rcases hd : hexValue? d with _ | z <;> simp only [hd] at h₃
  · cases h₃
  rw [Nat.zero_mul, Nat.zero_add, if_pos (by decide)] at h₃
  refine ⟨_, [a, b, c, d], t, .digits hw hx hy (hexDigit_of_hexValue? hd), rfl, ?_⟩
  rcases hunit : finishUnit high (((w * 16 + x) * 16 + y) * 16 + z) with cause | e | half <;>
    simp only [hunit] at h₃
  · cases h₃
  · exact .inl ⟨e, rfl, h₃⟩
  · exact .inr ⟨half, rfl, h₃⟩

theorem toNat_ofNat_of_valid (h : n.isValidChar) : (Char.ofNat n).toNat = n := by
  rw [Char.ofNat, dif_pos h]
  rfl

/-- A unit that is no half of a pair is that of a character. -/
theorem toNat_of_finishUnit (hn : n < 0x10000) (h : finishUnit none n = .ok (.inl c)) :
    c.toNat = n := by
  unfold finishUnit at h
  simp only at h
  split_ifs at h with hlow hhigh
  · cases h
  have hc : Char.ofNat n = c := Sum.inl.inj (Except.ok.inj h)
  simp only [isLow, isHigh, Bool.and_eq_true, decide_eq_true_eq] at hlow hhigh
  have hvalid : n.isValidChar := by
    unfold Nat.isValidChar
    omega
  rw [← hc, toNat_ofNat_of_valid hvalid]

theorem half_of_finishUnit {half : Nat} (h : finishUnit high n = .ok (.inr half)) :
    half = n ∧ isHigh n = true := by
  rcases high with _ | first <;> unfold finishUnit at h <;> simp only at h
  · split_ifs at h with hlow hhigh <;> cases h
    exact ⟨rfl, hhigh⟩
  · split_ifs at h
    cases h

theorem pair_of_finishUnit {half : Nat} {r : Char ⊕ Nat}
    (h : finishUnit (some half) n = .ok r) : r = .inl (pairChar half n) ∧ isLow n = true := by
  unfold finishUnit at h
  simp only at h
  split_ifs at h with hlow
  cases h
  exact ⟨rfl, hlow⟩

theorem charText_pair {half low : Nat} {u w : List Char} (hhigh : isHigh half = true)
    (hlow : isLow low = true) (hu : UnitText half u) (hw : UnitText low w) :
    CharText (pairChar half low) ('\\' :: 'u' :: (u ++ '\\' :: 'u' :: w)) := by
  simp only [isHigh, isLow, Bool.and_eq_true, decide_eq_true_eq] at hhigh hlow
  have hvalid : ((half - 0xD800) * 0x400 + (low - 0xDC00) + 0x10000).isValidChar := by
    unfold Nat.isValidChar
    omega
  have hnat : (pairChar half low).toNat = (half - 0xD800) * 0x400 + (low - 0xDC00) + 0x10000 :=
    toNat_ofNat_of_valid hvalid
  refine .pair (by omega) ?_ ?_
  · rwa [hnat, show 0xD800 + ((half - 0xD800) * 0x400 + (low - 0xDC00) + 0x10000 - 0x10000) / 0x400
      = half by omega]
  · rwa [hnat, show 0xDC00 + ((half - 0xD800) * 0x400 + (low - 0xDC00) + 0x10000 - 0x10000) % 0x400
      = low by omega]

theorem mem_of_shortEscape? {e : Char} (h : shortEscape? e = some c) : (e, c) ∈ shortEscapes := by
  unfold shortEscape? at h
  split at h <;> cases h <;> decide

/-- The text of a character is taken, and what is behind it reads as the other characters. -/
def TakesChar (s cs rest : List Char) : Prop :=
  ∃ c ds u t, CharText c u ∧ cs = c :: ds ∧ s = u ++ t ∧ stringBody .plain t = .ok (ds, rest)

theorem takesChar_of_consChar {u t : List Char} (hu : CharText c u)
    (h : consChar c (stringBody .plain t) = .ok (cs, rest)) : TakesChar (u ++ t) cs rest := by
  obtain ⟨ds, hds, hcs⟩ := map_eq_ok_iff.1 h
  exact ⟨c, ds, u, t, hu, hcs.symm, rfl, hds⟩

/-- Behind the first half of a pair the second is taken. -/
theorem takesChar_of_half {half : Nat} {u : List Char} (hhigh : isHigh half = true)
    (hu : UnitText half u) (h : stringBody (.secondSlash half) s = .ok (cs, rest)) :
    TakesChar ('\\' :: 'u' :: (u ++ s)) cs rest := by
  rcases s with _ | ⟨slash, s⟩
  · cases h
  rw [stringBody] at h
  split_ifs at h with hslash
  rcases s with _ | ⟨letter, s⟩
  · cases h
  rw [stringBody] at h
  split_ifs at h with hletter
  obtain ⟨low, w, t, hw, rfl, ⟨c, hc, hread⟩ | ⟨other, hother, -⟩⟩ := unit_of_stringBody h
  · obtain ⟨hchar, hlow⟩ := pair_of_finishUnit hc
    rw [Sum.inl.inj hchar] at hread
    have hpair := takesChar_of_consChar (charText_pair hhigh hlow hu hw) hread
    simpa [hslash, hletter] using hpair
  · cases (pair_of_finishUnit hother).1

/-- A string is over, or it goes on with a character. -/
theorem stringBody_cases (h : stringBody .plain s = .ok (cs, rest)) :
    (cs = [] ∧ s = '"' :: rest) ∨ TakesChar s cs rest := by
  rcases s with _ | ⟨c, s⟩
  · cases h
  rw [stringBody] at h
  split_ifs at h with hquote hslash hcontrol
  · cases h
    exact .inl ⟨rfl, by rw [hquote]⟩
  · subst hslash
    rcases s with _ | ⟨e, s⟩
    · cases h
    rw [stringBody] at h
    split_ifs at h with hu
    · subst hu
      obtain ⟨n, u, t, hn, rfl, ⟨c, hc, hread⟩ | ⟨half, hhalf, hread⟩⟩ := unit_of_stringBody h
      · rw [← toNat_of_finishUnit hn.lt hc] at hn
        exact .inr (takesChar_of_consChar (.unit hn) hread)
      · obtain ⟨rfl, hhigh⟩ := half_of_finishUnit hhalf
        exact .inr (takesChar_of_half hhigh hn hread)
    · rcases hd : shortEscape? e with _ | d <;> simp only [hd] at h
      · cases h
      · exact .inr (takesChar_of_consChar (.short (mem_of_shortEscape? hd)) h)
  · exact .inr (takesChar_of_consChar (.plain hquote hslash (Nat.not_lt.1 hcontrol)) h)

theorem charsText_of_stringBody : ∀ {cs s : List Char},
    stringBody .plain s = .ok (cs, rest) → ∃ t, CharsText cs t ∧ s = t ++ '"' :: rest
  | [], s, h => by
    rcases stringBody_cases h with ⟨-, rfl⟩ | ⟨c, ds, u, t, -, hcs, -⟩
    · exact ⟨[], .nil, rfl⟩
    · cases hcs
  | c :: cs, s, h => by
    rcases stringBody_cases h with ⟨hcs, -⟩ | ⟨d, ds, u, t, hu, hcs, rfl, ht⟩
    · cases hcs
    · cases hcs
      obtain ⟨w, hw, rfl⟩ := charsText_of_stringBody ht
      exact ⟨u ++ w, .cons hu hw, (List.append_assoc ..).symm⟩

theorem stringText_of_readString {k : String} (h : readString s = .ok (k, rest)) :
    ∃ t, StringText k t ∧ '"' :: s = t ++ rest := by
  obtain ⟨cs, hcs, rfl⟩ := map_eq_ok_iff.1 h
  obtain ⟨t, ht, rfl⟩ := charsText_of_stringBody hcs
  rw [← String.toList_ofList (l := cs)] at ht
  exact ⟨_, .quoted ht, by simp⟩

end Strings

section Lists

variable {item : Reader} {P : List Char → Prop} {c closing : Char} {q left : List Char}

/-- A text of a kind behind blanks. -/
def Behind (P : List Char → Prop) (s : List Char) : Prop := ∃ a t, Blank a ∧ P t ∧ s = a ++ t

/-- Behind a text in a list stand further texts or none, and the closing bracket. -/
def ListEnd (P : List Char → Prop) (closing : Char) (s rest : List Char) : Prop :=
  ∃ b, Blank b ∧ (s = b ++ closing :: rest
    ∨ ∃ t, ListedText P t ∧ s = b ++ ',' :: (t ++ closing :: rest))

theorem Blank.append {a b : List Char} (ha : Blank a) (hb : Blank b) : Blank (a ++ b) :=
  fun c hc => (List.mem_append.1 hc).elim (ha c) (hb c)

theorem mem_of_isSpace (h : isSpace c = true) : c ∈ [' ', '\t', '\n', '\r'] := by
  simp only [isSpace, Bool.or_eq_true, decide_eq_true_eq] at h
  simp only [List.mem_cons, List.not_mem_nil, or_false]
  tauto

theorem eq_blank_append_skipSpace (s : List Char) : ∃ a, Blank a ∧ s = a ++ skipSpace s :=
  ⟨s.takeWhile isSpace, fun _ hc => mem_of_isSpace (List.mem_takeWhile_imp hc),
    List.takeWhile_append_dropWhile.symm⟩

theorem ListEnd.listed (h : ListEnd P closing left rest) (hs : skipSpace s = c :: q)
    (hfirst : ∃ t, Behind P t ∧ c :: q = t ++ left) :
    ∃ u, ListedText P u ∧ s = u ++ closing :: rest := by
  obtain ⟨a, ha, hblank⟩ := eq_blank_append_skipSpace s
  obtain ⟨_, ⟨a', t, ha', ht, rfl⟩, hq⟩ := hfirst
  rw [hblank, hs, hq]
  obtain ⟨b, hb, rfl | ⟨u, hu, rfl⟩⟩ := h
  · exact ⟨_, .one (ha.append ha') ht hb, by simp⟩
  · exact ⟨_, .cons (ha.append ha') ht hb hu, by simp⟩

theorem bracketText_of_skipSpace {opening : Char} (hs : skipSpace s = closing :: rest) :
    ∃ t, BracketText P opening closing t ∧ opening :: s = t ++ rest := by
  obtain ⟨a, ha, hblank⟩ := eq_blank_append_skipSpace s
  rw [hs] at hblank
  exact ⟨_, .empty ha, by simp [hblank]⟩

theorem listEnd_of_moreItems (hitem : Takes (Behind P) item) : ∀ {fuel : Nat} {s : List Char}
    {vs : List Json}, moreItems item fuel s = .ok (vs, rest) → ListEnd P ']' s rest
  | 0, _, _, h => by cases h
  | fuel + 1, s, _, h => by
    obtain ⟨b, hb, hblank⟩ := eq_blank_append_skipSpace s
    rcases moreItems_eq_ok_iff.1 h with ⟨hs, -⟩ | ⟨r, c, q, v, t, vs, hs, hr, -, hv, hvs, -⟩
    · exact ⟨b, hb, .inl (hs ▸ hblank)⟩
    · obtain ⟨u, hu, rfl⟩ := (listEnd_of_moreItems hitem hvs).listed hr (hitem hv)
      exact ⟨b, hb, .inr ⟨u, hu, hs ▸ hblank⟩⟩

/-- What is read as the items of an array is an array, with its first bracket. -/
theorem bracketText_of_readItems (hitem : Takes (Behind P) item) {vs : List Json}
    (h : readItems item s = .ok (vs, rest)) :
    ∃ t, BracketText P '[' ']' t ∧ '[' :: s = t ++ rest := by
  rcases readItems_eq_ok_iff.1 h with ⟨hs, -⟩ | ⟨c, q, v, t, vs, hs, -, hv, hvs, -⟩
  · exact bracketText_of_skipSpace hs
  · obtain ⟨u, hu, rfl⟩ := (listEnd_of_moreItems hitem hvs).listed hs (hitem hv)
    exact ⟨_, .listed hu, by simp⟩

theorem keyedText_of_readMember (hitem : Takes (Behind P) item) {m : String × Json}
    (h : readMember item q = .ok (m, rest)) : ∃ t, KeyedText P t ∧ '"' :: q = t ++ rest := by
  obtain ⟨left, r, hk, hcolon, hv⟩ := readMember_eq_ok_iff.1 h
  obtain ⟨k, hk, hq⟩ := stringText_of_readString hk
  obtain ⟨a, ha, hblank⟩ := eq_blank_append_skipSpace left
  obtain ⟨_, ⟨b, t, hb, ht, rfl⟩, hr⟩ := hitem hv
  rw [hcolon, hr] at hblank
  exact ⟨_, .colon hk ha hb ht, by rw [hq, hblank]; simp⟩

theorem behind_of_readMember (hitem : Takes (Behind P) item) {m : String × Json}
    (h : readMember item q = .ok (m, rest)) :
    ∃ t, Behind (KeyedText P) t ∧ '"' :: q = t ++ rest := by
  obtain ⟨t, ht, hq⟩ := keyedText_of_readMember hitem h
  exact ⟨t, ⟨[], t, blank_nil, ht, rfl⟩, hq⟩

theorem listEnd_of_moreMembers (hitem : Takes (Behind P) item) : ∀ {fuel : Nat} {s : List Char}
    {ms : List (String × Json)}, moreMembers item fuel s = .ok (ms, rest) →
      ListEnd (KeyedText P) '\x7d' s rest
  | 0, _, _, h => by cases h
  | fuel + 1, s, _, h => by
    obtain ⟨b, hb, hblank⟩ := eq_blank_append_skipSpace s
    rcases moreMembers_eq_ok_iff.1 h with ⟨hs, -⟩ | ⟨r, q, m, t, ms, hs, hr, hm, hms, -⟩
    · exact ⟨b, hb, .inl (hs ▸ hblank)⟩
    · obtain ⟨u, hu, rfl⟩ :=
        (listEnd_of_moreMembers hitem hms).listed hr (behind_of_readMember hitem hm)
      exact ⟨b, hb, .inr ⟨u, hu, hs ▸ hblank⟩⟩

/-- What is read as the members of an object is an object, with its first brace. -/
theorem bracketText_of_readMembers (hitem : Takes (Behind P) item) {ms : List (String × Json)}
    (h : readMembers item s = .ok (ms, rest)) :
    ∃ t, BracketText (KeyedText P) '\x7b' '\x7d' t ∧ '\x7b' :: s = t ++ rest := by
  rcases readMembers_eq_ok_iff.1 h with ⟨hs, -⟩ | ⟨q, m, t, ms, hs, hm, hms, -⟩
  · exact bracketText_of_skipSpace hs
  · obtain ⟨u, hu, rfl⟩ :=
      (listEnd_of_moreMembers hitem hms).listed hs (behind_of_readMember hitem hm)
    exact ⟨_, .listed hu, by simp⟩

end Lists

section Values

variable {depth : Nat} {c : Char} {q : List Char} {v : Json}

theorem ScalarText.value (h : ScalarText s) : ∀ n : Nat, ValueText n s
  | 0 => h
  | _ + 1 => .inl h

theorem eq_append_of_readWord {w : Json} : ∀ {word s : List Char},
    readWord w word s = .ok (v, rest) → s = word ++ rest
  | [], s, h => by
    cases h
    rfl
  | c :: word, [], h => by cases h
  | c :: word, d :: s, h => by
    rw [readWord] at h
    split_ifs at h with hc
    rw [eq_append_of_readWord h, hc, List.cons_append]

theorem scalarText_of_readValue (hs : skipSpace s = c :: q) (hbracket : c ≠ '[')
    (hbrace : c ≠ '\x7b') (h : readValue depth s = .ok (v, rest)) :
    ∃ t, ScalarText t ∧ c :: q = t ++ rest := by
  by_cases hdigit : (digit? c).isSome = true
  · rw [readValue_digit _ hs hdigit] at h
    obtain ⟨t, ht, hq⟩ := takes_readNumber h
    exact ⟨t, .number ht, hq⟩
  rw [readValue, hs] at h
  split at h <;> rename_i heq <;> cases heq
  case h_2 =>
    rw [eq_append_of_readWord h]
    exact ⟨_, .null, rfl⟩
  case h_3 =>
    rw [eq_append_of_readWord h]
    exact ⟨_, .bool true, rfl⟩
  case h_4 =>
    rw [eq_append_of_readWord h]
    exact ⟨_, .bool false, rfl⟩
  case h_5 =>
    obtain ⟨k, hk, -⟩ := map_eq_ok_iff.1 h
    obtain ⟨t, ht, hq⟩ := stringText_of_readString hk
    exact ⟨t, .string ht, hq⟩
  case h_6 =>
    obtain ⟨t, ht, rfl⟩ := takes_readNumber h
    exact ⟨_, .negative ht, rfl⟩
  case h_7 => exact absurd rfl hbracket
  case h_8 => exact absurd rfl hbrace
  case h_9 =>
    rw [if_neg hdigit] at h
    cases h

theorem takes_readValue (depth : Nat) :
    Takes (Behind (ValueText (depth - 1))) (readValue depth) := by
  induction depth using Nat.strong_induction_on with
  | _ depth ih =>
    intro s v rest h
    obtain ⟨a, ha, hblank⟩ := eq_blank_append_skipSpace s
    -- what follows the blanks is a value
    suffices hvalue : ∃ t, ValueText (depth - 1) t ∧ skipSpace s = t ++ rest by
      obtain ⟨t, ht, hskip⟩ := hvalue
      exact ⟨a ++ t, ⟨a, t, ha, ht, rfl⟩, by rw [hblank, hskip, List.append_assoc]⟩
    rcases hs : skipSpace s with _ | ⟨c, q⟩
    · rw [readValue, hs] at h
      cases h
    by_cases hc : c = '[' ∨ c = '\x7b'
    · obtain ⟨d, rfl⟩ := readValue_of_shallow hs hc h
      have hitem := ih (d + 1) (Nat.lt_succ_self _)
      rcases hc with rfl | rfl
      · rw [readValue_bracket _ hs] at h
        obtain ⟨vs, hvs, -⟩ := map_eq_ok_iff.1 h
        obtain ⟨t, ht, hq⟩ := bracketText_of_readItems hitem hvs
        exact ⟨t, .inr (.inl ht), hq⟩
      · rw [readValue_brace _ hs] at h
        obtain ⟨ms, hms, -⟩ := map_eq_ok_iff.1 h
        obtain ⟨t, ht, hq⟩ := bracketText_of_readMembers hitem hms
        exact ⟨t, .inr (.inr ht), hq⟩
    · rw [not_or] at hc
      obtain ⟨t, ht, hq⟩ := scalarText_of_readValue hs hc.1 hc.2 h
      exact ⟨t, ht.value _, hq⟩

/-- A text that the reader accepts is a document. -/
theorem document_of_read {text : String} (h : read text = .ok v) : DocumentText 127 text := by
  obtain ⟨left, hread, hleft⟩ := read_eq_ok_iff.1 h
  obtain ⟨_, ⟨a, s, ha, hs, rfl⟩, htext⟩ := takes_readValue depthBound hread
  obtain ⟨b, hb, hblank⟩ := eq_blank_append_skipSpace left
  rw [hleft, List.append_nil] at hblank
  rw [hblank, List.append_assoc] at htext
  exact ⟨a, s, b, ha, hs, hb, htext⟩

end Values

end Conformance.Json
