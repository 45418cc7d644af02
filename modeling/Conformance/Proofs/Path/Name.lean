import Conformance.Catalogue.Loading
import Conformance.Proofs.Path.Inside
import Mathlib.Tactic.MkIffOfInductiveProp

/-!
# Names in a directory

A name that can stand in a directory is the last part of its path (`fileName?_join`), so it decides
alone whether the path is that of a suite (`isPath_join`).
-/

namespace Conformance

namespace Path

/-- The text can be the name of something in a directory. -/
@[mk_iff]
structure IsName (name : String) : Prop where
  slash : '/' ∉ name.toList
  nonempty : name ≠ ""
  point : name ≠ "."
  upwards : name ≠ ".."

instance : DecidablePred IsName := fun name => decidable_of_iff' _ (isName_iff name)

variable {name : String}

theorem IsName.isAbsolute (h : IsName name) : isAbsolute name = false :=
  isAbsolute_of_notMem h.slash

theorem IsName.names (h : IsName name) : names name = [name] :=
  names_of_notMem h.slash h.nonempty h.point

theorem split_of_notMem (h : '/' ∉ name.toList) : split name = [name] := by
  unfold split
  rw [splitChars_of_notMem h, List.map_singleton, String.ofList_toList]

theorem split_slash (a : String) (h : '/' ∉ name.toList) :
    split (a ++ "/" ++ name) = split a ++ [name] := by
  have hlist : (a ++ "/" ++ name).toList = a.toList ++ '/' :: name.toList := by simp
  have hname := split_of_notMem h
  unfold split at hname ⊢
  rw [hlist, splitChars_append_slash, List.map_append, hname]

theorem split_join (a : String) (h : '/' ∉ name.toList) :
    ∃ front, split (join a name) = front ++ [name] := by
  unfold join
  rw [isAbsolute_of_notMem h, Bool.false_or]
  split_ifs with ha hlast
  · exact ⟨[], split_of_notMem h⟩
  · obtain ⟨s, hs⟩ := List.getLast?_eq_some_iff.1 hlast
    obtain rfl : a = String.ofList s ++ "/" := String.toList_inj.1 (by simpa using hs)
    exact ⟨_, split_slash _ h⟩
  · exact ⟨_, split_slash a h⟩

theorem getLast?_parts {path : String} {front : List String} (hsplit : split path = front ++ [name])
    (hempty : name ≠ "") (hpoint : name ≠ ".") : (parts path).getLast? = some name := by
  have hnamed : (split path).filter (· ≠ "") = front.filter (· ≠ "") ++ [name] := by
    rw [hsplit, List.filter_append]
    simp [hempty]
  unfold parts
  rw [hnamed]
  split_ifs
  · simp [hpoint]
  · -- the first part counts even if it is a point, and the name may be the first
    rcases front.filter (· ≠ "") with _ | ⟨first, front⟩
    · simp
    · refine (congrArg List.getLast? ?_).trans
        (List.getLast?_concat (l := first :: front.filter (· ≠ ".")))
      simp [hpoint]

/-- A name in a directory is the last part of its path. -/
theorem fileName?_join (a : String) (h : IsName name) : fileName? (join a name) = some name := by
  obtain ⟨front, hsplit⟩ := split_join a h.slash
  unfold fileName?
  rw [getLast?_parts hsplit h.nonempty h.point]
  simp [h.point, h.upwards]

end Path

/-- Whether a path is that of a suite is told by the name. -/
theorem Suite.isPath_join (a : String) {name : String} (h : Path.IsName name) :
    Suite.isPath (Path.join a name) = Suite.isPath name := by
  have hself : Path.fileName? name = some name := by
    simpa [Path.join] using Path.fileName?_join "" h
  unfold Suite.isPath Path.extension?
  rw [Path.fileName?_join a h, hself]

end Conformance
