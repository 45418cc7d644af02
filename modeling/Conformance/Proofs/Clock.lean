import Conformance.Clock

/-!
# Characters of a point in time

A point in time is written with digits, signs and a line between date and time, so it can stand in
the name of a file (`slash_notMem_compact`). What ends each of its numbers is no digit, and a year
outside of four digits begins with its sign, so the text for a reader tells the second
(`plain_eq_iff`).
-/

namespace Conformance

/-- A text is split in one way only where a property of its characters ends. -/
theorem eq_of_append_eq {α : Type} {p : α → Prop} : ∀ {d e x y : List α}, (∀ c ∈ d, p c) →
    (∀ c ∈ e, p c) → (∀ c ∈ x.head?, ¬ p c) → (∀ c ∈ y.head?, ¬ p c) → d ++ x = e ++ y →
      d = e ∧ x = y
  | [], [], _, _, _, _, _, _, h => ⟨rfl, h⟩
  | [], c :: e, x, y, _, he, hx, _, h => by
    rw [List.nil_append, List.cons_append] at h
    subst h
    exact absurd (he c List.mem_cons_self) (hx c rfl)
  | c :: d, [], x, y, hd, _, _, hy, h => by
    rw [List.nil_append, List.cons_append] at h
    subst h
    exact absurd (hd c List.mem_cons_self) (hy c rfl)
  | c :: d, b :: e, x, y, hd, he, hx, hy, h => by
    simp only [List.cons_append, List.cons.injEq] at h
    obtain ⟨rfl, h⟩ := h
    obtain ⟨rfl, hxy⟩ := eq_of_append_eq (fun a ha => hd a (List.mem_cons_of_mem c ha))
      (fun a ha => he a (List.mem_cons_of_mem c ha)) hx hy h
    exact ⟨rfl, hxy⟩

namespace Clock

theorem toList_padded (width n : Nat) : (padded width n).toList
    = List.replicate (width - (toString n).length) '0' ++ Nat.toDigits 10 n := by
  simp [padded]

theorem isDigit_of_mem_padded {width n : Nat} {c : Char} (h : c ∈ (padded width n).toList) :
    c.isDigit = true := by
  rw [toList_padded, List.mem_append] at h
  rcases h with h | h
  · rw [List.eq_of_mem_replicate h]
    rfl
  · exact Nat.isDigit_of_mem_toDigits (by decide) (by decide) h

theorem notMem_padded {x : Char} (hx : x.isDigit = false) (width n : Nat) :
    x ∉ (padded width n).toList :=
  fun h => absurd (isDigit_of_mem_padded h) (by simp [hx])

/-- A year has digits and a sign only. -/
theorem notMem_yearText {x : Char} (hx : x.isDigit = false) (hminus : x ≠ '-') (hplus : x ≠ '+')
    (y : Int) : x ∉ (yearText y).toList := by
  unfold yearText
  split
  · exact notMem_padded hx 4 _
  · rw [String.toList_append, List.mem_append, not_or]
    refine ⟨?_, notMem_padded hx 4 _⟩
    split <;> simpa

theorem slash_notMem_compact (c : Clock) : '/' ∉ c.compact.toList := by
  have hyear := notMem_yearText (x := '/') (by decide) (by decide) (by decide) c.year
  have hnumber := notMem_padded (x := '/') (by decide)
  have hline : '/' ∉ "_".toList := by decide
  simp only [compact, secondText, String.toList_append, List.mem_append, not_or]
  simp only [hyear, hnumber, hline, not_false_eq_true, and_self]

theorem notMem_plain {x : Char} (hx : x.isDigit = false) (hmarks : x ∉ ['-', '+', ' ', ':'])
    (c : Clock) : x ∉ c.plain.toList := by
  simp only [List.mem_cons, List.not_mem_nil, or_false, not_or] at hmarks
  obtain ⟨hminus, hplus, hspace, hcolon⟩ := hmarks
  have hyear := notMem_yearText hx hminus hplus c.year
  have hnumber := notMem_padded hx
  simp [plain, dateText, timeText, secondText, hyear, hnumber, hminus, hspace, hcolon]

section Numbers

variable {width m n : Nat} {y z : Int} {s t : List Char}

/-- Zeros in front do not change a number. -/
theorem ofDigitChars_padded (width n : Nat) :
    Nat.ofDigitChars 10 (padded width n).toList 0 = n := by
  rw [toList_padded, Nat.ofDigitChars_append, Nat.ofDigitChars_replicate_zero, Nat.mul_zero,
    Nat.ofDigitChars_ten_toDigits]

/-- Numbers with zeros in front are told apart up to what is no digit. -/
theorem padded_append_inj (hs : ∀ c ∈ s.head?, ¬ c.isDigit = true)
    (ht : ∀ c ∈ t.head?, ¬ c.isDigit = true)
    (h : (padded width m).toList ++ s = (padded width n).toList ++ t) : m = n ∧ s = t := by
  obtain ⟨hdigits, hrest⟩ :=
    eq_of_append_eq (fun _ => isDigit_of_mem_padded) (fun _ => isDigit_of_mem_padded) hs ht h
  refine ⟨?_, hrest⟩
  rw [← ofDigitChars_padded width m, hdigits, ofDigitChars_padded]

theorem isDigit_head_padded (s : List Char) :
    ∀ c ∈ ((padded width n).toList ++ s).head?, c.isDigit = true := by
  intro c hc
  have hne : (padded width n).toList ≠ [] := by
    rw [toList_padded]
    exact List.append_ne_nil_of_right_ne_nil _ Nat.toDigits_ne_nil
  obtain ⟨d, ds, hds⟩ := List.exists_cons_of_ne_nil hne
  rw [hds, List.cons_append, List.head?_cons, Option.mem_some_iff] at hc
  subst hc
  exact isDigit_of_mem_padded (hds ▸ List.mem_cons_self)

/-- A year is written with its sign, if it has one, in front of its digits. -/
theorem toList_yearText (y : Int) : ∃ sign : List Char,
    (yearText y).toList = sign ++ (padded 4 y.natAbs).toList
      ∧ (∀ c ∈ sign, ¬ c.isDigit = true) ∧ (sign = ['-'] ↔ y < 0) := by
  unfold yearText
  split
  case isTrue h =>
    simp only [Bool.and_eq_true, decide_eq_true_eq] at h
    have habs : y.toNat = y.natAbs := by omega
    have hsign : ([] : List Char) = ['-'] ↔ y < 0 := by simp [h.1]
    exact ⟨[], by rw [habs, List.nil_append], by simp, hsign⟩
  case isFalse h =>
    by_cases hneg : y < 0
    · exact ⟨['-'], by rw [if_pos hneg, String.toList_append]; rfl, by simp, by simp [hneg]⟩
    · exact ⟨['+'], by rw [if_neg hneg, String.toList_append]; rfl, by simp, by simp [hneg]⟩

/-- Years are told apart up to what is no digit. -/
theorem yearText_append_inj (hs : ∀ c ∈ s.head?, ¬ c.isDigit = true)
    (ht : ∀ c ∈ t.head?, ¬ c.isDigit = true)
    (h : (yearText y).toList ++ s = (yearText z).toList ++ t) : y = z ∧ s = t := by
  obtain ⟨sign, hy, hdigit, hneg⟩ := toList_yearText y
  obtain ⟨sign', hz, hdigit', hneg'⟩ := toList_yearText z
  rw [hy, hz, List.append_assoc, List.append_assoc] at h
  obtain ⟨rfl, hrest⟩ := eq_of_append_eq hdigit hdigit'
    (fun c hc => not_not_intro (isDigit_head_padded s c hc))
    (fun c hc => not_not_intro (isDigit_head_padded t c hc)) h
  obtain ⟨habs, hst⟩ := padded_append_inj hs ht hrest
  have hsame : y < 0 ↔ z < 0 := hneg.symm.trans hneg'
  exact ⟨by omega, hst⟩

end Numbers

section Seconds

/-- The point in time without the fraction of its second. A leap second counts as the sixtieth. -/
def toSecond (c : Clock) : Clock :=
  { c with second := c.second + c.nanosecond / 1000000000, nanosecond := 0 }

theorem toList_plain (c : Clock) : c.plain.toList
    = (yearText c.year).toList ++ '-' :: ((padded 2 c.month).toList ++ '-' ::
      ((padded 2 c.day).toList ++ ' ' :: ((padded 2 c.hour).toList ++ ':' ::
      ((padded 2 c.minute).toList ++ ':' :: ((padded 2 c.toSecond.second).toList ++ []))))) := by
  simp [plain, dateText, timeText, secondText, toSecond]

/-- What is written for a reader tells the second, and nothing below it. -/
theorem plain_eq_iff (c d : Clock) : c.plain = d.plain ↔ c.toSecond = d.toSecond := by
  rw [← String.toList_inj, toList_plain, toList_plain]
  constructor
  · intro h
    obtain ⟨hyear, h⟩ := yearText_append_inj (by simp) (by simp) h
    obtain ⟨hmonth, h⟩ := padded_append_inj (by simp) (by simp) (List.cons.inj h).2
    obtain ⟨hday, h⟩ := padded_append_inj (by simp) (by simp) (List.cons.inj h).2
    obtain ⟨hhour, h⟩ := padded_append_inj (by simp) (by simp) (List.cons.inj h).2
    obtain ⟨hminute, h⟩ := padded_append_inj (by simp) (by simp) (List.cons.inj h).2
    obtain ⟨hsecond, -⟩ := padded_append_inj (by simp) (by simp) (List.cons.inj h).2
    simp only [toSecond] at hsecond ⊢
    rw [hyear, hmonth, hday, hhour, hminute, hsecond]
  · intro h
    simp only [toSecond, mk.injEq] at h
    obtain ⟨hyear, hmonth, hday, hhour, hminute, hsecond, -⟩ := h
    simp only [toSecond, hyear, hmonth, hday, hhour, hminute, hsecond]

end Seconds

end Clock

end Conformance
