import Conformance.Page
import Conformance.Proofs.Clock
import Mathlib.Tactic.IntervalCases

/-!
# The name of the page

The name of a page is that of the build with the time of the start behind it, and a build may be
called as it likes, also like a time. So the name is read from its end: what stands behind the year
always takes eleven characters (`length_behindYear`), and the year is what is left behind the last
low line, for no year has one (`eq_of_last_mark`). Pages of one name are of one build and of one
second (`pageName_eq_iff`).
-/

namespace Conformance

/-- A text is split in one way only at the last of its marks. -/
theorem eq_of_last_mark {α : Type} {m : α} {a b y z : List α} (hy : m ∉ y) (hz : m ∉ z)
    (h : a ++ m :: y = b ++ m :: z) : a = b ∧ y = z := by
  have hreverse : y.reverse ++ m :: a.reverse = z.reverse ++ m :: b.reverse := by
    simpa using congrArg List.reverse h
  have hmark : ∀ {l : List α}, ∀ c ∈ (m :: l).head?, ¬ c ≠ m := by simp
  obtain ⟨hyz, hab⟩ := eq_of_append_eq (p := (· ≠ m))
    (fun c hc e => hy (List.mem_reverse.1 (e ▸ hc)))
    (fun c hc e => hz (List.mem_reverse.1 (e ▸ hc))) hmark hmark hreverse
  simp only [List.cons.injEq, true_and] at hab
  exact ⟨List.reverse_inj.1 hab, List.reverse_inj.1 hyz⟩

namespace Clock

section Calendar

/-- The numbers stay within those of a calendar and of a clock. A leap second has up to a second
more in nanoseconds. -/
structure Regular (c : Clock) : Prop where
  month : c.month ≤ 12
  day : c.day ≤ 31
  hour : c.hour < 24
  minute : c.minute < 60
  second : c.second < 60
  nanosecond : c.nanosecond < 2000000000

/-- A leap second prolongs the last second of its minute. -/
def LeapsLast (c : Clock) : Prop := 1000000000 ≤ c.nanosecond → c.second = 59

theorem dayOfYear_le {d y : Nat} (hd : d < 146097)
    (hy : y = (d - d / 1460 + d / 36524 - d / 146096) / 365) :
    d - (365 * y + y / 4 - y / 100) ≤ 365 := by
  have hcentury : d / 36524 ≤ 4 := by omega
  have hlast : d / 146096 ≤ 1 := by omega
  have hleft : y / 100 ≤ 4 := by omega
  -- with the centuries known, the rest is linear
  generalize hf : d / 36524 = f at *
  generalize hg : d / 146096 = g at *
  generalize hc : y / 100 = c at *
  interval_cases f <;> interval_cases g <;> interval_cases c <;> omega

theorem dayOf_le (days : Int) : (dayOf days).2.1 ≤ 12 ∧ (dayOf days).2.2 ≤ 31 := by
  have hmod : Int.fmod days 146097 < 146097 := Int.fmod_lt_of_pos days (by decide)
  have hday : (Int.fmod days 146097).toNat < 146097 := by omega
  have hyear := dayOfYear_le hday rfl
  unfold dayOf
  generalize (Int.fmod days 146097).toNat = d at hyear
  simp only []
  generalize (d - d / 1460 + d / 36524 - d / 146096) / 365 = y at hyear
  generalize d - (365 * y + y / 4 - y / 100) = n at hyear
  split <;> simp only [] <;> omega

/-- The time at which a run starts has such numbers. -/
theorem regular_ofNanoseconds (n : Int) : (ofNanoseconds n).Regular := by
  have hsecond : Int.fmod (Int.fdiv n 1000000000) 86400 < 86400 :=
    Int.fmod_lt_of_pos _ (by decide)
  have hnano : Int.fmod n 1000000000 < 1000000000 := Int.fmod_lt_of_pos n (by decide)
  obtain ⟨hmonth, hday⟩ := dayOf_le (Int.fdiv (Int.fdiv n 1000000000) 86400 + 719468)
  unfold ofNanoseconds
  constructor <;> simp only [] <;> omega

end Calendar

section Compact

variable {c d : Clock} {m n : Nat} {s t : List Char}

theorem length_padded (h : n < 100) : (padded 2 n).toList.length = 2 := by
  have hle : (Nat.toDigits 10 n).length ≤ 2 :=
    (Nat.length_toDigits_le_iff (by decide) (by decide)).2 h
  have hlen : (toString n).length = (Nat.toDigits 10 n).length := by
    rw [Nat.toString_eq_ofList_toDigits, String.length_ofList]
  rw [toList_padded, List.length_append, List.length_replicate, hlen]
  omega

/-- Numbers of two digits are told apart whatever follows. -/
theorem two_append_inj (hm : m < 100) (hn : n < 100)
    (h : (padded 2 m).toList ++ s = (padded 2 n).toList ++ t) : m = n ∧ s = t := by
  obtain ⟨hdigits, hrest⟩ := List.append_inj h (by rw [length_padded hm, length_padded hn])
  refine ⟨?_, hrest⟩
  rw [← ofDigitChars_padded 2 m, hdigits, ofDigitChars_padded]

/-- What is written of a point in time behind its year. -/
def behindYear (c : Clock) : List Char :=
  (padded 2 c.month).toList ++ ((padded 2 c.day).toList ++ '_' :: ((padded 2 c.hour).toList
    ++ ((padded 2 c.minute).toList ++ ((padded 2 c.toSecond.second).toList ++ []))))

theorem toList_compact (c : Clock) :
    c.compact.toList = (yearText c.year).toList ++ c.behindYear := by
  simp [compact, behindYear, secondText, toSecond]

theorem compact_toSecond (c : Clock) : c.toSecond.compact = c.compact := by
  simp [compact, secondText, toSecond]

namespace Regular

theorem toSecond_lt (h : c.Regular) : c.toSecond.second < 100 := by
  have hsecond := h.second
  have hnano := h.nanosecond
  simp only [toSecond]
  omega

theorem length_behindYear (h : c.Regular) : c.behindYear.length = 11 := by
  have hmonth := h.month
  have hday := h.day
  have hhour := h.hour
  have hminute := h.minute
  simp only [behindYear, List.length_append, List.length_cons, List.length_nil]
  rw [length_padded (by omega), length_padded (by omega), length_padded (by omega),
    length_padded (by omega), length_padded h.toSecond_lt]

theorem behindYear_inj (hc : c.Regular) (hd : d.Regular) (h : c.behindYear = d.behindYear) :
    c.month = d.month ∧ c.day = d.day ∧ c.hour = d.hour ∧ c.minute = d.minute
      ∧ c.toSecond.second = d.toSecond.second := by
  obtain ⟨hmonth, h⟩ := two_append_inj (by have := hc.month; omega) (by have := hd.month; omega) h
  obtain ⟨hday, h⟩ := two_append_inj (by have := hc.day; omega) (by have := hd.day; omega) h
  simp only [List.cons.injEq, true_and] at h
  obtain ⟨hhour, h⟩ := two_append_inj (by have := hc.hour; omega) (by have := hd.hour; omega) h
  obtain ⟨hminute, h⟩ :=
    two_append_inj (by have := hc.minute; omega) (by have := hd.minute; omega) h
  obtain ⟨hsecond, -⟩ := two_append_inj hc.toSecond_lt hd.toSecond_lt h
  exact ⟨hmonth, hday, hhour, hminute, hsecond⟩

end Regular

end Compact

end Clock

namespace RunReport

variable {r q : RunReport}

theorem toList_pageName (r : RunReport) : r.pageName.toList
    = (r.buildName.toList ++ '_' :: (Clock.yearText r.started.year).toList)
      ++ r.started.behindYear ++ ".html".toList := by
  simp [pageName, Clock.toList_compact]

/-- Whatever the builds are called, two pages have one name exactly if they are of one build and of
one second, in which a leap second counts as the sixtieth. So where leap seconds prolong the last
second of a minute only, the seconds of the clocks are the same as well. -/
theorem pageName_eq_iff (hr : r.started.Regular) (hq : q.started.Regular) :
    (r.pageName = q.pageName
      ↔ r.buildName = q.buildName ∧ r.started.toSecond = q.started.toSecond)
    ∧ (r.pageName = q.pageName → r.started.LeapsLast → q.started.LeapsLast →
      r.started.second = q.started.second) := by
  have hname : r.pageName = q.pageName →
      r.buildName = q.buildName ∧ r.started.toSecond = q.started.toSecond := by
    intro h
    have h := congrArg String.toList h
    rw [toList_pageName, toList_pageName] at h
    obtain ⟨h, -⟩ := List.append_inj' h rfl
    obtain ⟨h, hbehind⟩ :=
      List.append_inj' h (by rw [hr.length_behindYear, hq.length_behindYear])
    have hline := Clock.notMem_yearText (x := '_') (by decide) (by decide) (by decide)
    obtain ⟨hbuild, hyear⟩ := eq_of_last_mark (hline _) (hline _) h
    rw [← List.append_nil (Clock.yearText r.started.year).toList,
      ← List.append_nil (Clock.yearText q.started.year).toList] at hyear
    obtain ⟨hyear, -⟩ := Clock.yearText_append_inj (by simp) (by simp) hyear
    obtain ⟨hmonth, hday, hhour, hminute, hsecond⟩ := hr.behindYear_inj hq hbehind
    refine ⟨String.toList_inj.1 hbuild, ?_⟩
    simp only [Clock.toSecond] at hsecond ⊢
    rw [hyear, hmonth, hday, hhour, hminute, hsecond]
  refine ⟨⟨hname, ?_⟩, fun h hleap hleap' => ?_⟩
  · rintro ⟨hbuild, hsecond⟩
    rw [pageName, pageName, hbuild, ← r.started.compact_toSecond, hsecond,
      q.started.compact_toSecond]
  · have hsecond := congrArg Clock.second (hname h).2
    have := hr.second
    have := hq.second
    have := hr.nanosecond
    have := hq.nanosecond
    simp only [Clock.toSecond] at hsecond
    simp only [Clock.LeapsLast] at hleap hleap'
    omega

/-- Two reports of one leap second before our era, and one whose build ends like their time. -/
theorem pageName_eq_of_leap :
    let early : RunReport := ⟨"B_20240305", ⟨-44, 3, 15, 12, 0, 59, 1000000000⟩, [], ["a"], []⟩
    let late : RunReport := ⟨"B_20240305", ⟨-44, 3, 15, 12, 0, 59, 1999999999⟩, [], [], ["b"]⟩
    let other : RunReport :=
      ⟨"B_20240305_-00440315", ⟨-44, 3, 15, 12, 0, 59, 1000000000⟩, [], ["a"], []⟩
    early.started.Regular ∧ late.started.Regular ∧ other.started.Regular
      ∧ early.pageName = "B_20240305_-00440315_120060.html" ∧ early.pageName = late.pageName
      ∧ early.started.second = late.started.second ∧ early.pageName ≠ other.pageName := by
  intro early late other
  have hearly : early.started.Regular := by constructor <;> decide
  have hlate : late.started.Regular := by constructor <;> decide
  have hother : other.started.Regular := by constructor <;> decide
  have hname : early.pageName = late.pageName := (pageName_eq_iff hearly hlate).1.2 ⟨rfl, by decide⟩
  refine ⟨hearly, hlate, hother, by decide +kernel, hname,
    (pageName_eq_iff hearly hlate).2 hname (fun _ => rfl) (fun _ => rfl), fun h => ?_⟩
  exact absurd ((pageName_eq_iff hearly hother).1.1 h).1 (by decide)

end RunReport

end Conformance
