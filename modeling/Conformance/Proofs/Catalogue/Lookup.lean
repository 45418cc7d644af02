import Conformance.Console
import Conformance.Proofs.Catalogue.Clash
import Conformance.Proofs.Catalogue.Groups

/-!
# Finding a case and running its group

A key finds any stored case, but a group runs one of its suites. Both agree exactly on the
catalogues in which no suite is shadowed (`casesOf_complete_iff`); `ofSuites` looks at keys only and
accepts others as well (`ofSuites_shadows`).
-/

namespace Conformance.Catalogue

variable {k : Catalogue} {g : Group} {c : TestCase}

section Complete

theorem mem_entries : (g, c) ∈ k.entries ↔ c ∈ k.storedOf g :=
  mem_entries_iff.trans mem_storedOf.symm

/-- If the groups run all that is stored, a suite behind another of its group has no cases: a group
does not run them, for they share no key with those that it runs. -/
theorem unshadowed_of_complete : ∀ {suites : List Suite},
    (suites.flatMap (·.cases)).Pairwise TestCase.Apart →
    (∀ g, ∀ c ∈ storedOf ⟨suites⟩ g, c ∈ casesOf ⟨suites⟩ g) → Unshadowed ⟨suites⟩
  | [], _, _ => List.Pairwise.nil
  | s :: rest, hapart, h => by
    rw [List.flatMap_cons, List.pairwise_append] at hapart
    obtain ⟨-, hrest, hacross⟩ := hapart
    have hother : ∀ g, ∀ c ∈ storedOf ⟨rest⟩ g, ¬ (s.group = g ∧ s.cases ≠ []) := by
      intro g c hc hg
      have hrun := h g c (storedOf_cons s rest g ▸ List.mem_append_right _ hc)
      rw [casesOf_cons, if_pos hg] at hrun
      obtain ⟨r, hr, -, hrc⟩ := mem_storedOf.1 hc
      exact (hacross c hrun c (List.mem_flatMap_of_mem hr hrc)).id_ne rfl
    refine List.pairwise_cons.2 ⟨fun r hr hs hc hg => ?_, unshadowed_of_complete hrest ?_⟩
    · obtain ⟨c, hc⟩ := List.exists_mem_of_ne_nil _ hc
      exact hother r.group c (mem_storedOf.2 ⟨r, hr, rfl, hc⟩) ⟨hg, hs⟩
    · intro g c hc
      have hrun := h g c (storedOf_cons s rest g ▸ List.mem_append_right _ hc)
      rwa [casesOf_cons, if_neg (hother g c hc)] at hrun

end Complete

section Plans

theorem ofSelection_name (k : Catalogue) (policy : GroupPolicy) (g : Group) :
    Plan.ofSelection k policy (.ofTargets [g.name]) = .ok ⟨[g], k.casesOf g⟩ := by
  have hname : Selection.ofTargets [g.name] = .groups [g] [] := by cases g <;> decide
  have hchosen : Plan.chosenGroups k policy [g] = [g] := by
    unfold Plan.chosenGroups Plan.firstGroup?
    rcases policy with _ | _
    · by_cases h : (k.casesOf g).isEmpty <;> simp [h]
    · rfl
  rw [hname, Plan.ofSelection, hchosen, Plan.ofGroups, List.flatMap_singleton]

theorem ofSelection_wildcard (k : Catalogue) (policy : GroupPolicy) :
    Plan.ofSelection k policy (.ofTargets [wildcard])
      = .ok ⟨k.implemented, Group.all.flatMap k.casesOf⟩ := by
  have hall : Selection.ofTargets [wildcard] = .all := by decide
  rw [hall, Plan.ofSelection, Plan.ofGroups, flatMap_implemented]

theorem mem_listedGroup {n : Nat} {g' : Group} :
    (⟨g, some (n, c)⟩ : Console.Listed) ∈ Console.listedGroup k g'
      ↔ g' = g ∧ ∃ i, (k.casesOf g')[i]? = some c ∧ i + 1 = n := by
  unfold Console.listedGroup
  rcases k.casesOf g' with _ | ⟨d, rest⟩
  · simp
  · simp only [List.mem_map, Prod.exists, List.mem_zipIdx_iff_getElem?, Console.Listed.mk.injEq,
      Option.some.injEq, Prod.mk.injEq]
    constructor
    · rintro ⟨e, i, hi, hg, rfl, rfl⟩
      exact ⟨hg, i, hi, rfl⟩
    · rintro ⟨hg, i, hi, rfl⟩
      exact ⟨c, i, hi, hg, rfl, rfl⟩

theorem mem_listed :
    (∃ n, (⟨g, some (n, c)⟩ : Console.Listed) ∈ Console.listed k) ↔ c ∈ k.casesOf g := by
  unfold Console.listed
  simp only [List.mem_flatMap, mem_listedGroup]
  rw [List.mem_iff_getElem?]
  constructor
  · rintro ⟨-, g', -, rfl, i, hi, -⟩
    exact ⟨i, hi⟩
  · rintro ⟨i, hi⟩
    exact ⟨i + 1, g, Group.mem_all g, rfl, i, hi, rfl⟩

/-- In an accepted catalogue, the groups run all that is stored for them exactly if no suite is
shadowed. Then the run of a stored case's group, a full run and the list of all cases have the case,
and a case that is selected alone is one that its group runs. -/
theorem casesOf_complete_iff {suites : List Suite} (h : ofSuites suites = .ok k) :
    k.suites = suites
    ∧ ((∀ g c, (g, c) ∈ k.entries → c ∈ k.casesOf g) ↔ k.Unshadowed)
    ∧ (k.Unshadowed → ∀ g c, (g, c) ∈ k.entries → ∀ policy,
        (∃ p, Plan.ofSelection k policy (.ofTargets [g.name]) = .ok p ∧ c ∈ p.cases)
        ∧ (∃ p, Plan.ofSelection k policy (.ofTargets [wildcard]) = .ok p ∧ c ∈ p.cases)
        ∧ ∃ n, ⟨g, some (n, c)⟩ ∈ Console.listed k)
    ∧ (k.Unshadowed → ∀ policy key p, Plan.ofSelection k policy (.single key) = .ok p →
        ∃ g c, p = ⟨[g], [c]⟩ ∧ k.find? key = some (g, c)
          ∧ ∃ q, Plan.ofSelection k policy (.ofTargets [g.name]) = .ok q ∧ c ∈ q.cases) := by
  obtain ⟨hsuites, hcheck⟩ := suites_of_ofSuites h
  have hcomplete : k.Unshadowed → ∀ g c, (g, c) ∈ k.entries → c ∈ k.casesOf g := by
    intro hk g c hc
    rw [casesOf_eq_storedOf hk]
    exact mem_entries.1 hc
  refine ⟨hsuites, ⟨fun hall => ?_, hcomplete⟩, fun hk g c hc policy => ?_,
    fun hk policy key p hp => ?_⟩
  · exact unshadowed_of_complete (check_eq_ok_iff.1 hcheck)
      fun g c hc => hall g c (mem_entries.2 hc)
  · have hrun := hcomplete hk g c hc
    exact ⟨⟨_, ofSelection_name k policy g, hrun⟩,
      ⟨_, ofSelection_wildcard k policy, List.mem_flatMap.2 ⟨g, Group.mem_all g, hrun⟩⟩,
      mem_listed.2 hrun⟩
  · unfold Plan.ofSelection at hp
    rcases hf : k.find? key with _ | ⟨g, c⟩ <;> simp only [hf, reduceCtorEq, Except.ok.injEq] at hp
    refine ⟨g, c, hp.symm, rfl, _, ofSelection_name k policy g, hcomplete hk g c ?_⟩
    exact List.mem_of_find?_eq_some hf

/-- Two suites of different groups, with an empty one of the first group behind. -/
theorem casesOf_complete_iff_three :
    let suites := [plainSuite .wifi "TCID1", plainSuite .ledControl "TCID2", ⟨.wifi, none, "", []⟩]
    let k : Catalogue := ⟨suites⟩
    ofSuites suites = .ok k ∧ k.Unshadowed ∧ k.entries.length = 2
      ∧ ∀ g c, (g, c) ∈ k.entries → c ∈ k.casesOf g := by
  intro suites k
  have hk : ofSuites suites = .ok k := eq_ok_of_toOption (by decide +kernel)
  have hunshadowed : k.Unshadowed := by decide
  exact ⟨hk, hunshadowed, by decide, (casesOf_complete_iff hk).2.1.2 hunshadowed⟩

/-- Of two suites of a group, a key finds a case of the second, but neither the run of the group nor
a full run nor the list has it. -/
theorem ofSuites_shadows :
    let suites := [plainSuite .wifi "TCID1", plainSuite .wifi "TCID2"]
    let k : Catalogue := ⟨suites⟩
    let hidden : TestCase := ⟨"TCID2", "TCID2", "", [], "", "", none⟩
    ofSuites suites = .ok k ∧ k.find? "TCID2" = some (.wifi, hidden)
      ∧ hidden ∉ k.casesOf .wifi
      ∧ (∃ p, Plan.ofSelection k .union (.ofTargets ["TCID2"]) = .ok p ∧ p.cases = [hidden])
      ∧ (∃ p, Plan.ofSelection k .union (.ofTargets ["Wifi"]) = .ok p ∧ hidden ∉ p.cases)
      ∧ (∃ p, Plan.ofSelection k .union (.ofTargets ["all"]) = .ok p ∧ hidden ∉ p.cases)
      ∧ ∀ n, ⟨.wifi, some (n, hidden)⟩ ∉ Console.listed k := by
  intro suites k hidden
  have hrun : hidden ∉ k.casesOf .wifi := by decide
  refine ⟨eq_ok_of_toOption (by decide +kernel), by decide, hrun, ⟨⟨[.wifi], [hidden]⟩, ?_, rfl⟩,
    ⟨_, ofSelection_name k .union .wifi, hrun⟩, ⟨_, ofSelection_wildcard k .union, by decide⟩,
    fun n h => hrun (mem_listed.1 ⟨n, h⟩)⟩
  exact eq_ok_of_toOption (by decide +kernel)

end Plans

end Conformance.Catalogue
