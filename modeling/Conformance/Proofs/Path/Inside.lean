import Conformance.Proofs.Path
import Mathlib.Tactic.SplitIfs

/-!
# Paths inside a directory

The names of a path are the parts that a file system follows. Behind a directory, a path that is not
absolute adds its names to those of the directory (`names_join`), so it stays inside exactly if it
has a name and none of its names leads upwards (`inside_join_iff`). A text without slashes is one
name (`names_of_notMem`).
-/

namespace Conformance.Path

/-- The parts of a path that lead somewhere. -/
def names (path : String) : List String := (split path).filter fun p => p ≠ "" && p ≠ "."

/-- The path is that of the directory with names behind it, none of which leads upwards. -/
structure Inside (dir path : String) : Prop where
  root : isAbsolute path = isAbsolute dir
  below : ∃ rest, rest ≠ [] ∧ ".." ∉ rest ∧ names path = names dir ++ rest

section Slashes

theorem splitChars_append_slash : ∀ s t : List Char,
    splitChars (s ++ '/' :: t) = splitChars s ++ splitChars t
  | [], t => by
    obtain ⟨p, ps, ht, hs⟩ := splitChars_cons '/' t
    rw [List.nil_append, hs, if_pos rfl, ht]
    rfl
  | c :: s, t => by
    obtain ⟨p, ps, hs, hcs⟩ := splitChars_cons c s
    obtain ⟨q, qs, ht, hct⟩ := splitChars_cons c (s ++ '/' :: t)
    rw [splitChars_append_slash s t, hs, List.cons_append, List.cons.injEq] at ht
    obtain ⟨rfl, rfl⟩ := ht
    rw [List.cons_append, hct, hcs]
    split_ifs <;> rfl

theorem splitChars_of_notMem : ∀ {s : List Char}, '/' ∉ s → splitChars s = [s]
  | [], _ => rfl
  | c :: s, h => by
    rw [List.mem_cons, not_or] at h
    rw [splitChars, splitChars_of_notMem h.2]
    simp only [if_neg (Ne.symm h.1)]

end Slashes

section Names

variable {a b name : String}

/-- A path with a slash in it has the names on both sides. -/
theorem names_slash (a b : String) : names (a ++ "/" ++ b) = names a ++ names b := by
  have hlist : (a ++ "/" ++ b).toList = a.toList ++ '/' :: b.toList := by simp
  unfold names split
  rw [hlist, splitChars_append_slash, List.map_append, List.filter_append]

theorem names_append_slash (a : String) : names (a ++ "/") = names a := by
  have h := names_slash a ""
  have hempty : names "" = [] := rfl
  rwa [hempty, List.append_nil, String.append_empty] at h

/-- A path that is not absolute adds its names to those of the directory. -/
theorem names_join (a : String) (h : isAbsolute b = false) :
    names (join a b) = names a ++ names b := by
  unfold join
  by_cases ha : a = ""
  · subst ha
    rw [h]
    rfl
  rw [h, Bool.false_or, if_neg (by simpa using ha)]
  split_ifs with hlast
  · -- the slash that ends `a` is the one between both
    obtain ⟨s, hs⟩ := List.getLast?_eq_some_iff.1 hlast
    obtain rfl : a = String.ofList s ++ "/" := String.toList_inj.1 (by simpa using hs)
    rw [names_slash, names_append_slash]
  · exact names_slash a b

theorem isAbsolute_join (a : String) (h : isAbsolute b = false) :
    isAbsolute (join a b) = isAbsolute a := by
  unfold join
  by_cases ha : a = ""
  · subst ha
    rw [h]
    exact h
  have hne : a.toList ≠ [] := by simpa using ha
  obtain ⟨c, s, hs⟩ := List.exists_cons_of_ne_nil hne
  rw [h, Bool.false_or, if_neg (by simpa using ha)]
  unfold isAbsolute
  split_ifs <;> simp [hs]

theorem join_of_isAbsolute (a : String) (h : isAbsolute b = true) : join a b = b := by
  unfold join
  rw [h, Bool.true_or, if_pos rfl]

/-- A text without slashes is one name, unless it is empty or a point. -/
theorem names_of_notMem (h : '/' ∉ name.toList) (hempty : name ≠ "") (hpoint : name ≠ ".") :
    names name = [name] := by
  unfold names split
  rw [splitChars_of_notMem h]
  simp [hempty, hpoint]

theorem isAbsolute_of_notMem (h : '/' ∉ name.toList) : isAbsolute name = false := by
  unfold isAbsolute
  rcases hn : name.toList with _ | ⟨c, s⟩
  · rfl
  · rw [hn, List.mem_cons, not_or] at h
    simp [Ne.symm h.1]

/-- A path that is not absolute stays inside the directory exactly if it has a name and none of its
names leads upwards. -/
theorem inside_join_iff (a : String) (h : isAbsolute b = false) :
    Inside a (join a b) ↔ names b ≠ [] ∧ ".." ∉ names b := by
  constructor
  · rintro ⟨-, rest, hne, hup, hrest⟩
    rw [names_join a h, List.append_cancel_left_eq] at hrest
    exact hrest ▸ ⟨hne, hup⟩
  · rintro ⟨hne, hup⟩
    exact ⟨isAbsolute_join a h, names b, hne, hup, names_join a h⟩

end Names

end Conformance.Path
