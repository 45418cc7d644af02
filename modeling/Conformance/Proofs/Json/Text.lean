import Conformance.Json.Text
import Conformance.Proofs.Json.Writing
import Mathlib.Tactic.IntervalCases

/-!
# Reading strings

What `stringBody` does with one escape after the other. Each text of a character adds exactly that
character (`stringBody_char`), so a text of a string reads as the string up to its closing quote
(`readString_text`).
-/

namespace Conformance.Json

section Units

variable {high : Option Nat} {start rest : List Char} {value left d n : Nat} {c : Char}

theorem hexValue?_of_hexDigit (h : HexDigit d c) : hexValue? c = some d := by
  obtain ⟨hd, rfl | rfl⟩ := h <;> interval_cases d <;> rfl

theorem stringBody_digit (h : HexDigit d c) (hleft : 1 < left) :
    stringBody (.unit high start value left) (c :: rest)
      = stringBody (.unit high start (value * 16 + d) (left - 1)) rest := by
  rw [stringBody, hexValue?_of_hexDigit h]
  simp only [if_neg (Nat.not_le.2 hleft)]

/-- The last of the four digits finishes the unit. -/
theorem stringBody_unit {s : List Char} (h : UnitText n s) (high : Option Nat)
    (start rest : List Char) : ∃ v d c, HexDigit d c ∧ v * 16 + d = n ∧
      stringBody (.unit high start 0 4) (s ++ rest)
        = stringBody (.unit high start v 1) (c :: rest) := by
  obtain ⟨hw, hx, hy, hz⟩ := h
  refine ⟨_, _, _, hz, rfl, ?_⟩
  simp only [List.cons_append, List.nil_append]
  rw [stringBody_digit hw (by decide), stringBody_digit hx (by decide),
    stringBody_digit hy (by decide), Nat.zero_mul, Nat.zero_add]

/-- A unit that is a character adds it. -/
theorem stringBody_unit_char {s : List Char} (h : UnitText n s)
    (hf : finishUnit high n = .ok (.inl c)) :
    stringBody (.unit high start 0 4) (s ++ rest) = consChar c (stringBody .plain rest) := by
  obtain ⟨v, d, z, hz, rfl, hs⟩ := stringBody_unit h high start rest
  rw [hs, stringBody, hexValue?_of_hexDigit hz]
  simp only [Nat.le_refl, if_true, hf]

/-- A unit that is the first half of a pair waits for the second. -/
theorem stringBody_unit_high {s : List Char} {u : Nat} (h : UnitText n s)
    (hf : finishUnit high n = .ok (.inr u)) :
    stringBody (.unit high start 0 4) (s ++ rest) = stringBody (.secondSlash u) rest := by
  obtain ⟨v, d, z, hz, rfl, hs⟩ := stringBody_unit h high start rest
  rw [hs, stringBody, hexValue?_of_hexDigit hz]
  simp only [Nat.le_refl, if_true, hf]

/-- The unit of a character is no half of a pair. -/
theorem finishUnit_toNat (c : Char) : finishUnit none c.toNat = .ok (.inl c) := by
  have hvalid : c.toNat < 0xD800 ∨ 0xDFFF < c.toNat ∧ c.toNat < 0x110000 := c.valid
  have hlow : isLow c.toNat = false := by
    simp only [isLow, Bool.and_eq_false_iff, decide_eq_false_iff_not]
    omega
  have hhigh : isHigh c.toNat = false := by
    simp only [isHigh, Bool.and_eq_false_iff, decide_eq_false_iff_not]
    omega
  simp [finishUnit, hlow, hhigh]

theorem finishUnit_high {k : Nat} (h : k < 0x400) :
    finishUnit none (0xD800 + k) = .ok (.inr (0xD800 + k)) := by
  have hlow : isLow (0xD800 + k) = false := by
    simp only [isLow, Bool.and_eq_false_iff, decide_eq_false_iff_not]
    omega
  have hhigh : isHigh (0xD800 + k) = true := by
    simp only [isHigh, Bool.and_eq_true, decide_eq_true_eq]
    omega
  simp [finishUnit, hlow, hhigh]

theorem finishUnit_low {h k : Nat} (hk : k < 0x400) :
    finishUnit (some h) (0xDC00 + k) = .ok (.inl (pairChar h (0xDC00 + k))) := by
  have hlow : isLow (0xDC00 + k) = true := by
    simp only [isLow, Bool.and_eq_true, decide_eq_true_eq]
    omega
  simp [finishUnit, hlow]

/-- The two halves of the pair of a character come to the character. -/
theorem pairChar_halves (h : 0x10000 ≤ c.toNat) :
    pairChar (0xD800 + (c.toNat - 0x10000) / 0x400) (0xDC00 + (c.toNat - 0x10000) % 0x400)
      = c := by
  have hn : (0xD800 + (c.toNat - 0x10000) / 0x400 - 0xD800) * 0x400
      + (0xDC00 + (c.toNat - 0x10000) % 0x400 - 0xDC00) + 0x10000 = c.toNat := by omega
  rw [pairChar, hn, Char.ofNat_toNat]

end Units

section Strings

variable {c : Char} {s rest : List Char}

theorem shortEscape?_of_mem {e : Char} (h : (e, c) ∈ shortEscapes) :
    e ≠ 'u' ∧ shortEscape? e = some c := by
  have hall : ∀ p ∈ shortEscapes, p.1 ≠ 'u' ∧ shortEscape? p.1 = some p.2 := by decide
  exact hall (e, c) h

/-- A text of a character reads as this character. -/
theorem stringBody_char (h : CharText c s) :
    stringBody .plain (s ++ rest) = consChar c (stringBody .plain rest) := by
  rcases h with ⟨hquote, hslash, hcontrol⟩ | h | h | ⟨hwide, hs, ht⟩
  · rw [List.singleton_append, stringBody, if_neg hquote, if_neg hslash,
      if_neg (Nat.not_lt.2 hcontrol)]
  · obtain ⟨hu, he⟩ := shortEscape?_of_mem h
    simp only [List.cons_append, List.nil_append]
    rw [stringBody, if_neg (by decide), if_pos rfl, stringBody, if_neg hu, he]
  · simp only [List.cons_append]
    rw [stringBody, if_neg (by decide), if_pos rfl, stringBody, if_pos rfl,
      stringBody_unit_char h (finishUnit_toNat c)]
  · have hmax : c.toNat < 0x110000 := by
      have hvalid : c.toNat < 0xD800 ∨ 0xDFFF < c.toNat ∧ c.toNat < 0x110000 := c.valid
      omega
    have hhigh := finishUnit_high (k := (c.toNat - 0x10000) / 0x400) (by omega)
    have hlow := finishUnit_low (h := 0xD800 + (c.toNat - 0x10000) / 0x400)
      (k := (c.toNat - 0x10000) % 0x400) (by omega)
    rw [pairChar_halves hwide] at hlow
    simp only [List.cons_append, List.append_assoc]
    rw [stringBody, if_neg (by decide), if_pos rfl, stringBody, if_pos rfl,
      stringBody_unit_high hs hhigh, stringBody, if_pos rfl, stringBody, if_pos rfl,
      stringBody_unit_char ht hlow]

theorem stringBody_chars : ∀ {cs s : List Char}, CharsText cs s →
    stringBody .plain (s ++ '"' :: rest) = .ok (cs, rest)
  | _, _, .nil => by rw [List.nil_append, stringBody, if_pos rfl]
  | _, _, .cons hc hcs => by
    rw [List.append_assoc, stringBody_char hc, stringBody_chars hcs]
    rfl

/-- A text of a string begins with a quote, and behind it reads as the string. -/
theorem readString_text {k : String} (h : StringText k s) :
    ∃ t, s = '"' :: t ∧ ∀ rest, readString (t ++ rest) = .ok (k, rest) := by
  obtain ⟨h⟩ := h
  refine ⟨_, rfl, fun rest => ?_⟩
  rw [List.append_assoc, List.singleton_append, readString, stringBody_chars h]
  simp [Except.map]

end Strings

end Conformance.Json
