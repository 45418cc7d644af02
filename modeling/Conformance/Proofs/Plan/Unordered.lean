import Conformance.Catalogue.Builtin
import Conformance.Proofs.Catalogue.Clash
import Conformance.Proofs.Catalogue.Groups
import Conformance.Proofs.Plan

/-!
# Targets in another order

Where no target has the mark of a test case and all groups of a selection are executed, a plan is
that of some groups (`groupsOf`): of those that are named, or of all where the wildcard is given.
Which groups these are depends on the targets that occur and not on their order or number
(`perm_groupsOf`), so neither does what is executed (`ofSelection_union_perm`).
-/

namespace Conformance.Plan

open Catalogue (plainSuite)
open Selection (ofTargets Found)

/-- The groups of targets that have no mark of a test case. -/
def groupsOf (k : Catalogue) (targets : List String) : List Group :=
  if wildcard ∈ targets then k.implemented else (Found.ofTargets targets).groups

section Groups

variable {k : Catalogue} {targets : List String}

theorem groupsOf_of_wildcard (h : wildcard ∈ targets) : groupsOf k targets = k.implemented :=
  if_pos h

theorem ofSelection_union (k : Catalogue) (hmark : ∀ t ∈ targets, ¬ caseMark.toList <:+: t.toList) :
    ofSelection k .union (ofTargets targets) = .ok (ofGroups k (groupsOf k targets)) := by
  have hunmarked : ∀ t ∈ targets, selectsCase t = false :=
    fun t ht => selectsCase_eq_false_iff.2 (hmark t ht)
  by_cases hall : wildcard ∈ targets
  · rw [Selection.ofTargets_of_wildcard hunmarked hall, groupsOf_of_wildcard hall]
    rfl
  · rw [Selection.ofTargets_of_unmarked hunmarked hall, groupsOf, if_neg hall]
    have haccounts := Found.accounts_ofTargets targets
    generalize Found.ofTargets targets = f at haccounts ⊢
    obtain ⟨_ | ⟨g, rest⟩, others⟩ := f
    · split_ifs <;> rfl
    · have hg : g.name ∈ targets := (haccounts.mem_iff g).1 List.mem_cons_self
      rw [if_neg fun hempty => g.name_ne_empty (hempty _ hg)]
      rfl

theorem nodup_groupsOf (k : Catalogue) (targets : List String) : (groupsOf k targets).Nodup := by
  unfold groupsOf
  split_ifs
  · exact nodup_implemented k
  · exact (Found.accounts_ofTargets targets).nodup

theorem mem_cases_groupsOf {c : TestCase} :
    c ∈ (ofGroups k (groupsOf k targets)).cases
      ↔ ∃ g : Group, (g.name ∈ targets ∨ wildcard ∈ targets) ∧ c ∈ k.casesOf g := by
  unfold ofGroups groupsOf
  split_ifs with hall
  · rw [Catalogue.flatMap_implemented]
    simp [hall, Group.mem_all]
  · simp [hall, (Found.accounts_ofTargets targets).mem_iff]

/-- Only which targets occur matters, and not whether an empty one does. -/
theorem perm_groupsOf (k : Catalogue) {others : List String}
    (h : ∀ t, t ≠ "" → (t ∈ targets ↔ t ∈ others)) :
    (groupsOf k targets).Perm (groupsOf k others) := by
  have hall : wildcard ∈ targets ↔ wildcard ∈ others := h wildcard (by decide)
  unfold groupsOf
  simp only [hall]
  split_ifs
  · exact List.Perm.refl _
  · have htargets := Found.accounts_ofTargets targets
    have hothers := Found.accounts_ofTargets others
    refine (List.perm_ext_iff_of_nodup htargets.nodup hothers.nodup).2 fun g => ?_
    rw [htargets.mem_iff, hothers.mem_iff, h g.name g.name_ne_empty]

end Groups

/-- Targets without the mark of a test case that are the same up to order, repeats and empty ones
have plans with the same cases up to order: those of the groups that are named, or of all groups
where the wildcard is given, each once and no two of one id. The wildcard also leaves the order the
same, which is that of the wildcard alone. -/
theorem ofSelection_union_perm {suites : List Suite} {k : Catalogue}
    (hk : Catalogue.ofSuites suites = .ok k) {targets others : List String}
    (hmark : ∀ t ∈ targets, ¬ caseMark.toList <:+: t.toList)
    (hsame : ∀ t, t ≠ "" → (t ∈ targets ↔ t ∈ others)) :
    ∃ p q, ofSelection k .union (ofTargets targets) = .ok p
      ∧ ofSelection k .union (ofTargets others) = .ok q
      ∧ p.cases.Perm q.cases
      ∧ p.cases.Nodup ∧ (p.cases.map (·.id)).Nodup
      ∧ (∀ c, c ∈ p.cases
        ↔ ∃ g : Group, (g.name ∈ targets ∨ wildcard ∈ targets) ∧ c ∈ k.casesOf g)
      ∧ (wildcard ∈ targets →
        p = q ∧ ofSelection k .union (ofTargets [wildcard]) = .ok p) := by
  obtain ⟨-, hcheck⟩ := Catalogue.suites_of_ofSuites hk
  have hothers : ∀ t ∈ others, ¬ caseMark.toList <:+: t.toList := by
    intro t ht
    by_cases hempty : t = ""
    · subst hempty
      decide
    · exact hmark t ((hsame t hempty).2 ht)
  have hids := nodup_ids (Catalogue.apart_flatMap_casesOf hcheck (nodup_groupsOf k targets))
  refine ⟨_, _, ofSelection_union k hmark, ofSelection_union k hothers,
    (perm_groupsOf k hsame).flatMap_right _, hids.of_map _, hids, fun c => mem_cases_groupsOf, ?_⟩
  intro hall
  have hwildcard : ∀ t ∈ [wildcard], ¬ caseMark.toList <:+: t.toList := by decide
  rw [ofSelection_union k hwildcard, groupsOf_of_wildcard hall,
    groupsOf_of_wildcard ((hsame _ (by decide)).1 hall), groupsOf_of_wildcard (by simp)]
  exact ⟨rfl, rfl⟩

/-- Two names in either order, one of them repeated, lead to the same two cases in either order;
beside the wildcard they lead to one plan. -/
theorem ofSelection_union_perm_repeats :
    let suites := [plainSuite .wifi "TCID1", plainSuite .ledControl "TCID2"]
    let plan := fun targets => ofSelection ⟨suites⟩ .union (ofTargets targets)
    Catalogue.ofSuites suites = .ok ⟨suites⟩
      ∧ (∃ p q, plan ["Wifi", "LEDControl"] = .ok p
        ∧ plan ["", "LEDControl", "Wifi", "LEDControl"] = .ok q
        ∧ p.cases.Perm q.cases ∧ p.cases.map (·.id) = ["TCID1", "TCID2"]
        ∧ q.cases.map (·.id) = ["TCID2", "TCID1"])
      ∧ ∃ p, plan ["LEDControl", "all", "Toaster"] = .ok p
        ∧ plan ["Toaster", "all", "all", "LEDControl", ""] = .ok p ∧ plan ["all"] = .ok p := by
  intro suites plan
  have hk : Catalogue.ofSuites suites = .ok ⟨suites⟩ :=
    Catalogue.ofSuites_of_free (by decide +kernel)
  refine ⟨hk, ?_, ?_⟩
  · have hmark : ∀ t ∈ ["Wifi", "LEDControl"], ¬ caseMark.toList <:+: t.toList := by
      decide +kernel
    obtain ⟨p, q, hp, hq, hperm, -⟩ := @ofSelection_union_perm _ _ hk _
      ["", "LEDControl", "Wifi", "LEDControl"] hmark (by simp +contextual [or_comm])
    have hids : (plan ["Wifi", "LEDControl"]).toOption.map (·.cases.map (·.id))
        = some ["TCID1", "TCID2"] := by decide +kernel
    have hids' : (plan ["", "LEDControl", "Wifi", "LEDControl"]).toOption.map (·.cases.map (·.id))
        = some ["TCID2", "TCID1"] := by decide +kernel
    obtain ⟨_, hp', hids⟩ := exists_ok_of_toOption hids
    obtain ⟨_, hq', hids'⟩ := exists_ok_of_toOption hids'
    cases hp.symm.trans hp'
    cases hq.symm.trans hq'
    exact ⟨p, q, hp, hq, hperm, hids, hids'⟩
  · have hmark : ∀ t ∈ ["LEDControl", "all", "Toaster"], ¬ caseMark.toList <:+: t.toList := by
      decide +kernel
    have hsame : ∀ t, t ≠ "" → (t ∈ ["LEDControl", "all", "Toaster"]
        ↔ t ∈ ["Toaster", "all", "all", "LEDControl", ""]) := by
      intro t ht
      simp only [List.mem_cons, List.not_mem_nil, ht]
      tauto
    obtain ⟨p, q, hp, hq, -, -, -, -, hall⟩ := ofSelection_union_perm hk hmark hsame
    obtain ⟨rfl, hwildcard⟩ := hall (by simp [wildcard])
    exact ⟨p, hp, hq, hwildcard⟩

end Conformance.Plan
