import Conformance.Plan
import Conformance.Proofs.Catalogue
import Conformance.Proofs.Selection

/-!
# The cases of a plan

The groups of a selection that targets make are without repeats, and so is what a policy chooses of
them. In a catalogue that passes `check`, no two cases of such a plan share a key
(`apart_ofSelection`). The group that is chosen first stands behind groups without cases only, so
the cases of all groups begin with its own (`flatMap_casesOf_of_firstGroup?`).
-/

namespace Conformance

namespace Plan

variable {k : Catalogue} {policy : GroupPolicy}

theorem nodup_implemented (k : Catalogue) : k.implemented.Nodup :=
  Group.nodup_all.filter _

theorem nodup_chosenGroups {groups : List Group} (h : groups.Nodup) :
    (chosenGroups k policy groups).Nodup := by
  rcases policy with _ | _
  · unfold chosenGroups
    rcases firstGroup? k groups with _ | g <;> simp
  · exact h

section Chosen

variable {groups : List Group} {g : Group}

/-- The group that is chosen first stands behind groups without cases, and if it has none itself,
neither has any other. -/
theorem firstGroup?_eq_some (h : firstGroup? k groups = some g) :
    ∃ before after, groups = before ++ g :: after ∧ (∀ b ∈ before, k.casesOf b = [])
      ∧ (k.casesOf g = [] → ∀ a ∈ after, k.casesOf a = []) := by
  unfold firstGroup? at h
  rcases hf : groups.find? fun g => !(k.casesOf g).isEmpty with _ | g'
  · have hnone : ∀ g ∈ groups, k.casesOf g = [] := by simpa using List.find?_eq_none.1 hf
    obtain ⟨rest, rfl⟩ := List.head?_eq_some_iff.1 (by simpa [hf] using h)
    exact ⟨[], rest, rfl, by simp, fun _ a ha => hnone a (List.mem_cons_of_mem g ha)⟩
  · obtain rfl : g' = g := by simpa [hf] using h
    obtain ⟨hg, before, after, hsplit, hbefore⟩ := List.find?_eq_some_iff_append.1 hf
    exact ⟨before, after, hsplit, by simpa using hbefore, fun hnone => by simp [hnone] at hg⟩

theorem exists_firstGroup? (k : Catalogue) (h : groups ≠ []) :
    ∃ g, firstGroup? k groups = some g := by
  obtain ⟨g, rest, rfl⟩ := List.exists_cons_of_ne_nil h
  unfold firstGroup?
  rcases (g :: rest).find? fun g => !(k.casesOf g).isEmpty with _ | g'
  · exact ⟨g, rfl⟩
  · exact ⟨g', rfl⟩

theorem mem_of_firstGroup? (h : firstGroup? k groups = some g) : g ∈ groups := by
  obtain ⟨before, after, rfl, -, -⟩ := firstGroup?_eq_some h
  simp

/-- The cases of the chosen group come first, and no others follow if no other group has any. -/
theorem flatMap_casesOf_of_firstGroup? (h : firstGroup? k groups = some g) :
    ∃ others, groups.flatMap k.casesOf = k.casesOf g ++ others
      ∧ (k.casesOf g = [] → others = [])
      ∧ (others = [] ↔ groups.countP (fun g => k.casesOf g ≠ []) ≤ 1) := by
  obtain ⟨before, after, rfl, hbefore, hafter⟩ := firstGroup?_eq_some h
  have hnone : before.flatMap k.casesOf = [] := List.flatMap_eq_nil_iff.2 hbefore
  have hcount : ∀ groups : List Group, groups.countP (fun g => k.casesOf g ≠ []) = 0
      ↔ groups.flatMap k.casesOf = [] := by
    simp [List.countP_eq_zero]
  refine ⟨after.flatMap k.casesOf, ?_, fun hg => List.flatMap_eq_nil_iff.2 (hafter hg), ?_⟩
  · rw [List.flatMap_append, hnone, List.nil_append, List.flatMap_cons]
  · rw [List.countP_append, (hcount before).2 hnone, Nat.zero_add, List.countP_cons, ← hcount]
    by_cases hg : k.casesOf g = []
    · rw [(hcount after).2 (List.flatMap_eq_nil_iff.2 (hafter hg)), if_neg (by simpa using hg)]
      omega
    · rw [if_pos (by simpa using hg)]
      omega

end Chosen

/-- No two cases of a plan share a key, if no two of the catalogue do. -/
theorem apart_ofSelection (hk : k.check = .ok ()) {targets : List String} {p : Plan}
    (h : ofSelection k policy (.ofTargets targets) = .ok p) :
    p.cases.Pairwise TestCase.Apart := by
  rcases hs : Selection.ofTargets targets with _ | key | _ | ⟨groups, ignored⟩ | unknown <;>
    rw [hs] at h <;> simp only [ofSelection, Except.ok.injEq] at h
  · rw [← h]
    exact List.Pairwise.nil
  · rcases hf : k.find? key with _ | ⟨g, c⟩ <;> rw [hf] at h
    · simp at h
    · simp only [Except.ok.injEq] at h
      rw [← h]
      exact List.pairwise_singleton _ c
  · rw [← h]
    exact Catalogue.apart_flatMap_casesOf hk (nodup_implemented k)
  · rw [← h]
    exact Catalogue.apart_flatMap_casesOf hk (nodup_chosenGroups (Selection.nodup_ofTargets hs))
  · rw [← h]
    exact List.Pairwise.nil

end Plan

end Conformance
