import Conformance.Json.Number

/-!
# Reading integers

An integer in plain decimal reads as itself, if what follows it cannot be part of a number
(`readNumber_nat`, `readNumber_neg`). `readDigits_digits` is the loop over its digits.
-/

namespace Conformance.Json

section Digits

/-- A value may end before the text. -/
def Follow (s : List Char) : Prop :=
  ∀ c ∈ s.head?, c ∈ [' ', '\t', '\n', '\r', ',', ']', '\x7d']

variable {rest : List Char}

theorem follow_nil : Follow [] := by simp [Follow]

theorem digit?_of_follow {c : Char} (h : Follow (c :: rest)) : digit? c = none := by
  have hc := h c rfl
  simp only [List.mem_cons, List.not_mem_nil, or_false] at hc
  rcases hc with rfl | rfl | rfl | rfl | rfl | rfl | rfl <;> rfl

theorem digit?_of_isDigit {c : Char} (h : c.isDigit = true) : digit? c = some (c.toNat - 48) := by
  simp only [Char.isDigit, Bool.and_eq_true, decide_eq_true_eq] at h
  exact if_pos h

theorem le_ofDigitChars (ds : List Char) (n : Nat) : n ≤ Nat.ofDigitChars 10 ds n := by
  rw [Nat.ofDigitChars_eq_ofDigitChars_zero]
  have hpow : 0 < 10 ^ ds.length := Nat.pow_pos (by decide)
  calc n ≤ 10 ^ ds.length * n := Nat.le_mul_of_pos_left n hpow
    _ ≤ _ := Nat.le_add_right _ _

/-- Digits whose number fits are all read. -/
theorem readDigits_digits {bound : Nat} (hrest : Follow rest) : ∀ {ds : List Char} {value : Nat}
    (used : Nat), (∀ c ∈ ds, c.isDigit = true) → Nat.ofDigitChars 10 ds value ≤ bound →
      readDigits bound value used (ds ++ rest)
        = ⟨Nat.ofDigitChars 10 ds value, used + ds.length, 0, rest⟩
  | [], value, used, _, _ => by
    rcases rest with _ | ⟨c, rest⟩
    · rfl
    · rw [List.nil_append, readDigits, digit?_of_follow hrest]
      rfl
  | c :: ds, value, used, hds, hle => by
    rw [Nat.ofDigitChars_cons] at hle ⊢
    have hvalue : 10 * value + (c.toNat - '0'.toNat) = value * 10 + (c.toNat - 48) := by
      rw [Nat.mul_comm]
      rfl
    rw [hvalue] at hle ⊢
    have hfits := Nat.le_trans (le_ofDigitChars ds _) hle
    rw [List.cons_append, readDigits, digit?_of_isDigit (hds c List.mem_cons_self)]
    simp only [if_pos hfits]
    rw [readDigits_digits hrest (used + 1) (fun d hd => hds d (List.mem_cons_of_mem c hd)) hle,
      List.length_cons, Nat.add_assoc, Nat.add_comm 1]

theorem isDigit_of_mem_toDigits {n : Nat} {c : Char} (h : c ∈ Nat.toDigits 10 n) :
    c.isDigit = true :=
  Nat.isDigit_of_mem_toDigits (by decide) (by decide) h

/-- A number begins with a digit, and a positive one with another than zero. -/
theorem toDigits_eq_cons (n : Nat) :
    ∃ c ds, Nat.toDigits 10 n = c :: ds ∧ c.isDigit = true ∧ (0 < n → c ≠ '0') := by
  induction n using Nat.base_induction 10 (by decide) with
  | single m hm =>
    refine ⟨m.digitChar, [], Nat.toDigits_of_lt_base hm, ?_, fun hpos => ?_⟩
    · rw [Nat.isDigit_digitChar]
      exact decide_eq_true hm
    · rw [Ne, Nat.digitChar_eq_zero]
      omega
  | digit m k hk hm ih =>
    obtain ⟨c, ds, hds, hd, hc⟩ := ih
    refine ⟨c, ds ++ Nat.toDigits 10 k, ?_, hd, fun _ => hc hm⟩
    rw [← Nat.toDigits_append_toDigits (by decide) hm hk, hds, List.cons_append]

end Digits

section Numbers

variable {n : Nat} {rest : List Char}

/-- Without point and exponent a number ends behind its digits. -/
theorem afterWhole_follow (negative : Bool) (h : Follow rest) :
    afterWhole negative n 0 rest
      = if !negative then .ok (.int n, rest)
        else if n = 0 || Int64.minValue.toInt.natAbs < n then double? true n 0 rest
        else .ok (.int (-n), rest) := by
  rcases rest with _ | ⟨c, rest⟩
  · rfl
  · -- none of these is a point or the letter of an exponent
    have hc := h c rfl
    simp only [List.mem_cons, List.not_mem_nil, or_false] at hc
    rcases hc with rfl | rfl | rfl | rfl | rfl | rfl | rfl <;> rfl

/-- A number that fits into sixty-four bits is read whole. -/
theorem readNumber_digits (negative : Bool) (hn : n ≤ maxWord) (h : Follow rest) :
    readNumber negative (Nat.toDigits 10 n ++ rest) = afterWhole negative n 0 rest := by
  rcases Nat.eq_zero_or_pos n with rfl | hpos
  · rw [Nat.toDigits_zero, List.singleton_append]
    rcases rest with _ | ⟨c, rest⟩
    · rfl
    · simp [readNumber, digit?_of_follow h]
  · obtain ⟨c, ds, hds, hd, hc⟩ := toDigits_eq_cons n
    have hread : readDigits maxWord 0 0 (Nat.toDigits 10 n ++ rest)
        = ⟨n, 0 + (Nat.toDigits 10 n).length, 0, rest⟩ := by
      have hval : Nat.ofDigitChars 10 (Nat.toDigits 10 n) 0 = n := Nat.ofDigitChars_ten_toDigits
      rw [readDigits_digits h 0 (fun c => isDigit_of_mem_toDigits)
        (Nat.le_trans (Nat.le_of_eq hval) hn), hval]
    rw [hds, List.cons_append] at hread ⊢
    rw [readNumber.eq_4 _ _ _ (hc hpos), digit?_of_isDigit hd, hread]
    rfl

theorem readNumber_nat (hn : n ≤ 18446744073709551615) (h : Follow rest) :
    readNumber false (Nat.toDigits 10 n ++ rest) = .ok (.int n, rest) := by
  rw [readNumber_digits false hn h, afterWhole_follow false h]
  rfl

theorem readNumber_neg (hpos : 0 < n) (hn : n ≤ 9223372036854775808) (h : Follow rest) :
    readNumber true (Nat.toDigits 10 n ++ rest) = .ok (.int (-n), rest) := by
  have hmin : Int64.minValue.toInt.natAbs = 9223372036854775808 := by decide
  have hfits : (n = 0 || decide (Int64.minValue.toInt.natAbs < n)) = false := by
    rw [hmin]
    simp only [Bool.or_eq_false_iff, decide_eq_false_iff_not]
    omega
  rw [readNumber_digits true (by unfold maxWord; omega) h, afterWhole_follow true h]
  simp only [hfits, Bool.not_true, if_neg Bool.false_ne_true]

end Numbers

end Conformance.Json
