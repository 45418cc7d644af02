import Conformance.Catalogue.Builtin
import Conformance.Proofs.Catalogue.Clash
import Conformance.Proofs.Plan

/-!
# What a run of targets executes

Targets lead to a plan by way of their selection. A target with the mark of a test case leads to the
one case that answers to it (`ofSelection_of_marked`); targets without it lead to groups, each
target accounted for (`ofTargets_accounts`); and of several groups, a policy that executes one of
them executes the beginning of what it would execute of all (`ofSelection_policies`).
-/

namespace Conformance

open Catalogue (plainSuite)
open Selection (ofTargets)

namespace Plan

/-- In an accepted catalogue, one stored case at most answers to the first target with the mark of a
test case. The plan is that case with the group of its suite, whatever stands before and behind the
target. If no case answers, there is no plan. -/
theorem ofSelection_of_marked {suites : List Suite} {k : Catalogue}
    (hk : Catalogue.ofSuites suites = .ok k) (policy : GroupPolicy) {before after : List String}
    {key : String} (hbefore : ∀ t ∈ before, ¬ caseMark.toList <:+: t.toList)
    (hkey : caseMark.toList <:+: key.toList) :
    let plan := ofSelection k policy (ofTargets (before ++ key :: after))
    (∀ s ∈ suites, ∀ c ∈ s.cases, key = c.name ∨ key = c.id →
        (suites.flatMap (·.cases)).filter (·.answersTo key) = [c]
        ∧ plan = .ok ⟨[s.group], [c]⟩)
    ∧ ((∀ s ∈ suites, ∀ c ∈ s.cases, key ≠ c.name ∧ key ≠ c.id) →
        plan = .error (.unknownCase key)) := by
  obtain ⟨rfl, hcheck⟩ := Catalogue.suites_of_ofSuites hk
  have hselection : ofTargets (before ++ key :: after) = .single key :=
    Selection.ofTargets_of_marked (fun t ht => selectsCase_eq_false_iff.2 (hbefore t ht))
      (selectsCase_iff.2 hkey)
  rw [hselection]
  refine ⟨fun s hs c hc hname => ?_, fun hnone => ?_⟩
  · have hentry : (s.group, c) ∈ k.entries := Catalogue.mem_entries_iff.2 ⟨s, hs, rfl, hc⟩
    have hanswers := TestCase.answersTo_iff.2 hname
    refine ⟨Catalogue.filter_cases hcheck hentry hanswers, ?_⟩
    simp only [ofSelection, Catalogue.find?_of_answersTo hcheck hentry hanswers]
  · have hfind : k.find? key = none := by
      refine Catalogue.find?_eq_none_iff.2 fun g c he => ?_
      obtain ⟨s, hs, -, hc⟩ := Catalogue.mem_entries_iff.1 he
      exact hnone s hs c hc
    simp only [ofSelection, hfind]

/-- A case is selected by its id behind a group and in front of the wildcard and another case. -/
theorem ofSelection_of_marked_between :
    let suites := [plainSuite .wifi "TCID1", plainSuite .ledControl "TCID2"]
    let c : TestCase := ⟨"TCID2", "TCID2", "", [], "", "", none⟩
    Catalogue.ofSuites suites = .ok ⟨suites⟩
      ∧ (suites.flatMap (·.cases)).filter (·.answersTo "TCID2") = [c]
      ∧ ofSelection ⟨suites⟩ .union (ofTargets ["Wifi", "TCID2", "all", "TCID1"])
        = .ok ⟨[.ledControl], [c]⟩
      ∧ ofSelection ⟨suites⟩ .union (ofTargets ["Wifi", "TCID3", "all", "TCID1"])
        = .error (.unknownCase "TCID3") := by
  intro suites c
  have hk : Catalogue.ofSuites suites = .ok ⟨suites⟩ :=
    Catalogue.ofSuites_of_free (by decide +kernel)
  have hbefore : ∀ t ∈ ["Wifi"], ¬ caseMark.toList <:+: t.toList := by decide +kernel
  have hplan := fun key =>
    @ofSelection_of_marked suites ⟨suites⟩ hk .union ["Wifi"] ["all", "TCID1"] key hbefore
  obtain ⟨hone, hfound⟩ := (hplan "TCID2" (by decide +kernel)).1 (plainSuite .ledControl "TCID2")
    (by simp [suites]) c (by simp [plainSuite, c]) (.inl rfl)
  exact ⟨hk, hone, hfound, (hplan "TCID3" (by decide +kernel)).2 (by decide +kernel)⟩

section Policies

variable {k : Catalogue} {groups : List Group}

theorem chosenGroups_ne_nil (k : Catalogue) (policy : GroupPolicy) (h : groups ≠ []) :
    chosenGroups k policy groups ≠ [] := by
  obtain ⟨g, hg⟩ := exists_firstGroup? k h
  rcases policy with _ | _
  · simp [chosenGroups, hg]
  · exact h

/-- The policy makes a difference for groups only. -/
theorem ofSelection_eq_of_not_groups {selection : Selection}
    (h : ∀ groups ignored, selection ≠ .groups groups ignored) (policy policy' : GroupPolicy) :
    ofSelection k policy selection = ofSelection k policy' selection := by
  rcases selection with _ | key | _ | ⟨groups, ignored⟩ | unknown
  case groups => exact absurd rfl (h groups ignored)
  all_goals rfl

/-- No policy has a plan of the targets, for the same reason, or each has one. Then the policy that
executes a single group executes the beginning of what the other executes, and nothing only if the
other does. Of groups it executes one with all its cases, which are the cases of all if and only if
at most one of the groups has cases. -/
theorem ofSelection_policies (k : Catalogue) (targets : List String) :
    let selection := ofTargets targets
    (∃ e, ofSelection k .first selection = .error e ∧ ofSelection k .union selection = .error e)
    ∨ ∃ p q, ofSelection k .first selection = .ok p ∧ ofSelection k .union selection = .ok q
      ∧ p.cases <+: q.cases ∧ (p.cases = [] → q.cases = [])
      ∧ ∀ groups ignored, selection = .groups groups ignored →
        (∃ g ∈ groups, p = ⟨[g], k.casesOf g⟩)
        ∧ (p.cases = q.cases ↔ groups.countP (fun g => k.casesOf g ≠ []) ≤ 1) := by
  intro selection
  by_cases hgroups : ∃ groups ignored, selection = .groups groups ignored
  · obtain ⟨groups, ignored, hs⟩ := hgroups
    obtain ⟨g, hg⟩ := exists_firstGroup? k (Selection.found_of_groups hs).2
    obtain ⟨others, hcases, hempty, hcount⟩ := flatMap_casesOf_of_firstGroup? hg
    refine .inr ⟨⟨[g], k.casesOf g⟩, ⟨groups, groups.flatMap k.casesOf⟩, ?_, ?_, ?_, ?_, ?_⟩
    · simp [hs, ofSelection, chosenGroups, hg, ofGroups]
    · simp [hs, ofSelection, chosenGroups, ofGroups]
    · exact hcases ▸ List.prefix_append _ _
    · intro hnone
      rw [hcases]
      exact List.append_eq_nil_iff.2 ⟨hnone, hempty hnone⟩
    · intro groups' ignored' h
      cases hs.symm.trans h
      refine ⟨⟨g, mem_of_firstGroup? hg, rfl⟩, ?_⟩
      rw [← hcount, hcases, List.self_eq_append_right]
  · have hnot : ∀ groups ignored, selection ≠ .groups groups ignored :=
      fun groups ignored h => hgroups ⟨groups, ignored, h⟩
    have hsame := ofSelection_eq_of_not_groups (k := k) hnot .union .first
    rcases hf : ofSelection k .first selection with e | p <;> rw [hf] at hsame
    · exact .inl ⟨e, rfl, hsame⟩
    · exact .inr ⟨p, p, rfl, hsame, List.prefix_rfl, id,
        fun groups ignored h => absurd h (hnot groups ignored)⟩

/-- Of a group without cases and two with cases, one policy executes the second alone. -/
theorem ofSelection_policies_builtin :
    let targets := ["Bluetooth", "LEDControl", "FrontPanel"]
    ofTargets targets = .groups [.bluetooth, .ledControl, .frontPanel] []
      ∧ ∃ p q, ofSelection .builtin .first (ofTargets targets) = .ok p
        ∧ ofSelection .builtin .union (ofTargets targets) = .ok q
        ∧ p.groups = [.ledControl] ∧ p.cases <+: q.cases ∧ p.cases ≠ q.cases := by
  intro targets
  have hs : ofTargets targets = .groups [.bluetooth, .ledControl, .frontPanel] [] := by
    decide +kernel
  rcases ofSelection_policies .builtin targets with ⟨e, he, -⟩ | ⟨p, q, hp, hq, hprefix, -, hgroups⟩
  · rw [hs] at he
    cases he
  · refine ⟨hs, p, q, hp, hq, ?_, hprefix, ?_⟩
    · rw [hs] at hp
      cases hp
      decide +kernel
    · rw [Ne, (hgroups _ _ hs).2]
      decide +kernel

end Policies

end Plan

namespace Selection

/-- Targets without the mark of a test case and without the wildcard are all accounted for: nothing
is selected exactly if all are empty; the groups that are named are selected, in the order in which
they are first named and without repeats, beside the others; and if none is named, the others are
what is not recognised. Groups that are selected leave every policy one to execute. -/
theorem ofTargets_accounts {targets : List String}
    (hmark : ∀ t ∈ targets, ¬ caseMark.toList <:+: t.toList) (hall : wildcard ∉ targets) :
    let others := targets.filter fun t => t ≠ "" ∧ t ∉ Group.all.map Group.name
    (ofTargets targets = .nothing ↔ ∀ t ∈ targets, t = "")
    ∧ (ofTargets targets = .unrecognized others
      ↔ (∃ t ∈ targets, t ≠ "") ∧ ∀ g : Group, g.name ∉ targets)
    ∧ ((∃ groups, ofTargets targets = .groups groups others) ↔ ∃ g : Group, g.name ∈ targets)
    ∧ ∀ groups ignored, ofTargets targets = .groups groups ignored →
      ignored = others ∧ groups.Nodup ∧ (∀ g, g ∈ groups ↔ g.name ∈ targets)
      ∧ groups.Pairwise (fun g h => targets.idxOf g.name < targets.idxOf h.name)
      ∧ groups ≠ [] ∧ ∀ k policy, Plan.chosenGroups k policy groups ≠ [] := by
  intro others
  have hunmarked : ∀ t ∈ targets, selectsCase t = false :=
    fun t ht => selectsCase_eq_false_iff.2 (hmark t ht)
  rcases ofTargets_cases hunmarked hall with
    ⟨h, hempty⟩ | ⟨h, ⟨t, ht, hne⟩, hnone⟩ | ⟨groups, h, ⟨g, hg⟩, haccounts⟩ <;> rw [h]
  · exact ⟨iff_of_true rfl hempty, iff_of_false nofun fun ⟨⟨t, ht, hne⟩, _⟩ => hne (hempty t ht),
      iff_of_false nofun fun ⟨g, hg⟩ => g.name_ne_empty (hempty _ hg), nofun⟩
  · exact ⟨iff_of_false nofun fun hempty => hne (hempty t ht),
      iff_of_true rfl ⟨⟨t, ht, hne⟩, hnone⟩, iff_of_false nofun fun ⟨g, hg⟩ => hnone g hg, nofun⟩
  · refine ⟨iff_of_false nofun fun hempty => g.name_ne_empty (hempty _ hg),
      iff_of_false nofun fun hnone => hnone.2 g hg, iff_of_true ⟨groups, rfl⟩ ⟨g, hg⟩, ?_⟩
    intro groups' ignored h'
    cases h'
    have hne := (found_of_groups h).2
    exact ⟨rfl, haccounts.nodup, haccounts.mem_iff, haccounts.inOrder, hne,
      fun k policy => Plan.chosenGroups_ne_nil k policy hne⟩

/-- Names that are repeated, and others that differ from a name in their letters only. -/
theorem ofTargets_accounts_repeats :
    let targets := ["", "LEDControl", "Toaster", "FrontPanel", "LEDControl", "ledcontrol",
      "Toaster"]
    (∀ t ∈ targets, ¬ caseMark.toList <:+: t.toList) ∧ wildcard ∉ targets
      ∧ ofTargets targets = .groups [.ledControl, .frontPanel] ["Toaster", "ledcontrol", "Toaster"]
      ∧ targets.idxOf "LEDControl" < targets.idxOf "FrontPanel"
      ∧ ∀ k policy, Plan.chosenGroups k policy [.ledControl, .frontPanel] ≠ [] := by
  intro targets
  have hmark : ∀ t ∈ targets, ¬ caseMark.toList <:+: t.toList := by decide +kernel
  have hall : wildcard ∉ targets := by decide +kernel
  have hs : ofTargets targets
      = .groups [.ledControl, .frontPanel] ["Toaster", "ledcontrol", "Toaster"] := by
    decide +kernel
  obtain ⟨-, -, -, hgroups⟩ := ofTargets_accounts hmark hall
  obtain ⟨-, -, -, horder, -, hchosen⟩ := hgroups _ _ hs
  exact ⟨hmark, hall, hs, (List.pairwise_cons.1 horder).1 .frontPanel (by simp), hchosen⟩

end Selection

end Conformance
