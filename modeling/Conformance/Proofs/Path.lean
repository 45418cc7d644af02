import Conformance.Path

/-!
# Ends of paths

A path that ends in a character other than a slash has a last part that ends in it
(`getLast?_splitChars`), and a path behind a directory ends as it did (`getLast?_join`).
-/

namespace Conformance.Path

theorem splitChars_cons (c : Char) (rest : List Char) : ∃ p ps, splitChars rest = p :: ps
    ∧ splitChars (c :: rest) = if c = '/' then [] :: p :: ps else (c :: p) :: ps := by
  induction rest generalizing c with
  | nil => exact ⟨[], [], rfl, rfl⟩
  | cons d rest ih =>
    obtain ⟨p, ps, -, hd⟩ := ih d
    by_cases h : d = '/'
    · rw [if_pos h] at hd
      refine ⟨[], p :: ps, hd, ?_⟩
      rw [splitChars.eq_2, hd]
    · rw [if_neg h] at hd
      refine ⟨d :: p, ps, hd, ?_⟩
      rw [splitChars.eq_2, hd]

/-- The last part of a text ends as the text does, unless that is a slash. -/
theorem getLast?_splitChars : ∀ {s : List Char} {c : Char}, s.getLast? = some c → c ≠ '/' →
    ∃ w, (splitChars s).getLast? = some w ∧ w.getLast? = some c
  | [], c, h, _ => by simp at h
  | [d], c, h, hc => by
    simp only [List.getLast?_singleton, Option.some.injEq] at h
    subst h
    exact ⟨[d], by simp [splitChars, hc], rfl⟩
  | d :: e :: rest, c, h, hc => by
    rw [List.getLast?_cons_cons] at h
    obtain ⟨w, hw, hwc⟩ := getLast?_splitChars h hc
    obtain ⟨p, ps, he, hd⟩ := splitChars_cons d (e :: rest)
    rw [he] at hw
    rw [hd]
    split
    · exact ⟨w, by rw [List.getLast?_cons_cons, hw], hwc⟩
    · rcases ps with _ | ⟨p', ps⟩
      · simp only [List.getLast?_singleton, Option.some.injEq] at hw
        subst hw
        refine ⟨d :: p, rfl, ?_⟩
        rcases p with _ | ⟨x, p⟩
        · simp at hwc
        · rw [List.getLast?_cons_cons, hwc]
      · rw [List.getLast?_cons_cons] at hw
        exact ⟨w, by rw [List.getLast?_cons_cons, hw], hwc⟩

/-- A path seen from a directory ends as it did. -/
theorem getLast?_join (a : String) {b : String} {c : Char} (h : b.toList.getLast? = some c) :
    (join a b).toList.getLast? = some c := by
  unfold join
  split
  · exact h
  · split
    · rw [String.toList_append, List.getLast?_append, h, Option.some_or]
    · rw [String.toList_append, List.getLast?_append, h, Option.some_or]

end Conformance.Path
