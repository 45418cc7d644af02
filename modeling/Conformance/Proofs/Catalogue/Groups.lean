import Conformance.Catalogue.Builtin
import Conformance.Proofs.Catalogue.Loading
import Conformance.Proofs.Plan

/-!
# One suite for each group

A group runs the cases of its first stored suite that has any (`casesOf_cons`). Where no suite with
cases stands behind another of its group, these are all cases stored for the group
(`casesOf_eq_storedOf`), and a full run has every stored case once (`perm_flatMap_storedOf`). This
holds of catalogues with at most one suite for each group, and loading keeps them so, whether it
succeeds or fails (`plan_all_of_loaded`).
-/

namespace Conformance.Catalogue

variable {k : Catalogue} {g : Group}

/-- At most one suite is stored for each group. -/
def OnePerGroup (k : Catalogue) : Prop := (k.suites.map (·.group)).Nodup

/-- No suite with cases stands behind another of its group. -/
def Unshadowed (k : Catalogue) : Prop :=
  k.suites.Pairwise fun r s => r.cases ≠ [] → s.cases ≠ [] → r.group ≠ s.group

instance (k : Catalogue) : Decidable k.OnePerGroup :=
  inferInstanceAs (Decidable (k.suites.map (·.group)).Nodup)

instance (k : Catalogue) : Decidable k.Unshadowed :=
  inferInstanceAs (Decidable (k.suites.Pairwise _))

/-- The cases stored for a group, suite by suite. -/
def storedOf (k : Catalogue) (g : Group) : List TestCase :=
  (k.suites.filter (·.group = g)).flatMap (·.cases)

/-- The catalogue after one directory after the other was loaded, each from the tree of its time. -/
def loadEach (k : Catalogue) (loads : List (FileTree × String)) : Catalogue :=
  loads.foldl (fun k load => (k.loadDirectory load.1 load.2).catalogue) k

section Stored

variable {s : Suite} {rest : List Suite}

theorem OnePerGroup.unshadowed (h : k.OnePerGroup) : k.Unshadowed :=
  (List.pairwise_map.1 h).imp fun hne _ _ => hne

theorem casesOf_cons (s : Suite) (rest : List Suite) (g : Group) :
    casesOf ⟨s :: rest⟩ g = if s.group = g ∧ s.cases ≠ [] then s.cases else casesOf ⟨rest⟩ g := by
  have hsome : (decide (s.group = g) && !s.cases.isEmpty)
      = decide (s.group = g ∧ s.cases ≠ []) := by
    rw [Bool.eq_iff_iff]
    simp
  unfold casesOf suite?
  rw [List.find?_cons, hsome]
  by_cases h : s.group = g ∧ s.cases ≠ []
  · rw [if_pos h, decide_eq_true h]
  · rw [if_neg h, decide_eq_false h]

theorem storedOf_cons (s : Suite) (rest : List Suite) (g : Group) :
    storedOf ⟨s :: rest⟩ g = (if s.group = g then s.cases else []) ++ storedOf ⟨rest⟩ g := by
  unfold storedOf
  by_cases h : s.group = g <;> simp [h]

theorem mem_storedOf {c : TestCase} :
    c ∈ k.storedOf g ↔ ∃ s ∈ k.suites, s.group = g ∧ c ∈ s.cases := by
  unfold storedOf
  simp [List.mem_flatMap, and_assoc]

theorem casesOf_eq_storedOf (h : k.Unshadowed) (g : Group) : k.casesOf g = k.storedOf g := by
  obtain ⟨suites⟩ := k
  induction suites with
  | nil => rfl
  | cons s rest ih =>
    obtain ⟨hs, hrest⟩ := List.pairwise_cons.1 h
    rw [casesOf_cons, storedOf_cons, ih hrest]
    by_cases hg : s.group = g
    · by_cases hc : s.cases = []
      · simp [hc]
      · -- what stands behind the suite for the group has no cases
        have hnone : storedOf ⟨rest⟩ g = [] := by
          refine List.eq_nil_iff_forall_not_mem.2 fun c hmem => ?_
          obtain ⟨r, hr, hrg, hrc⟩ := mem_storedOf.1 hmem
          exact hs r hr hc (List.ne_nil_of_mem hrc) (hg.trans hrg.symm)
        rw [if_pos ⟨hg, hc⟩, if_pos hg, hnone, List.append_nil]
    · rw [if_neg fun h => hg h.1, if_neg hg, List.nil_append]

theorem perm_filter_groups : ∀ suites : List Suite,
    (Group.all.flatMap fun g => suites.filter (·.group = g)).Perm suites
  | [] => by simp
  | s :: rest => by
    have hfilter : ∀ g : Group, (s :: rest).filter (·.group = g)
        = (if s.group = g then [s] else []) ++ rest.filter (·.group = g) := by
      intro g
      by_cases h : s.group = g <;> simp [h]
    have hown : (Group.all.flatMap fun g => if s.group = g then [s] else []) = [s] := by
      rcases s with ⟨g, callsign, description, cases⟩
      cases g <;> rfl
    simp only [hfilter]
    refine (List.flatMap_append_perm _ _ _).symm.trans ?_
    rw [hown]
    exact (perm_filter_groups rest).cons s

theorem perm_flatMap_storedOf (k : Catalogue) : (Group.all.flatMap k.storedOf).Perm k.cases := by
  unfold storedOf
  rw [← List.flatMap_assoc]
  exact (perm_filter_groups k.suites).flatMap_right _

theorem flatMap_implemented (k : Catalogue) :
    k.implemented.flatMap k.casesOf = Group.all.flatMap k.casesOf := by
  unfold implemented
  induction Group.all with
  | nil => rfl
  | cons g groups ih =>
    rw [List.filter_cons, List.flatMap_cons, ← ih]
    rcases hs : k.suite? g with _ | s
    · have hnone : k.casesOf g = [] := by
        unfold casesOf
        rw [hs]
      rw [hnone]
      rfl
    · rfl

theorem mem_implemented : g ∈ k.implemented ↔ k.casesOf g ≠ [] := by
  unfold implemented casesOf
  rcases hs : k.suite? g with _ | s
  · simp [hs]
  · have hcases := List.find?_some hs
    simp only [Bool.and_eq_true, Bool.not_eq_true', List.isEmpty_eq_false_iff] at hcases
    simp [hs, hcases.2, Group.mem_all]

theorem cases_ofGroups_implemented (h : k.Unshadowed) :
    (Plan.ofGroups k k.implemented).cases = Group.all.flatMap k.storedOf := by
  unfold Plan.ofGroups
  rw [flatMap_implemented]
  exact List.flatMap_congr fun g _ => casesOf_eq_storedOf h g

end Stored

section Loaded

theorem onePerGroup_insert (h : k.OnePerGroup) (s : Suite) : (k.insert s).OnePerGroup := by
  unfold OnePerGroup insert
  rw [map_group_insertSuite]
  split_ifs with hs
  · exact h
  · exact List.nodup_append_comm.1 (List.nodup_cons.2 ⟨hs, h⟩)

theorem onePerGroup_insertAll : ∀ (suites : List Suite) {k : Catalogue}, k.OnePerGroup →
    (k.insertAll suites).OnePerGroup
  | [], _, h => h
  | s :: suites, _, h => onePerGroup_insertAll suites (onePerGroup_insert h s)

/-- However a loading ends, it leaves at most one suite for each group. -/
theorem onePerGroup_loadDirectory (h : k.OnePerGroup) (t : FileTree) (dir : String) :
    (k.loadDirectory t dir).catalogue.OnePerGroup := by
  rcases hdir : t.isDirectory dir with _ | _
  · rw [loadDirectory_of_missing k hdir]
    exact h
  · rw [catalogue_loadDirectory hdir]
    exact onePerGroup_insertAll _ h

theorem onePerGroup_loadEach : ∀ (loads : List (FileTree × String)) {k : Catalogue},
    k.OnePerGroup → (k.loadEach loads).OnePerGroup
  | [], _, h => h
  | load :: loads, _, h => onePerGroup_loadEach loads (onePerGroup_loadDirectory h load.1 load.2)

theorem check_of_loaded {t : FileTree} {dir : String} {n : Nat}
    (h : (k.loadDirectory t dir).result = .ok n) :
    (k.loadDirectory t dir).catalogue.check = .ok () := by
  rcases hdir : t.isDirectory dir with _ | _
  · rw [loadDirectory_of_missing k hdir] at h
    cases h
  · rcases hl : Suite.loadAll t (suiteSteps t dir) with ⟨suites, _ | e⟩
    · rw [result_loadDirectory_of_ok hdir hl] at h
      rcases hc : (k.loadDirectory t dir).catalogue.check with e | _
      · rw [hc] at h
        cases h
      · rfl
    · rw [result_loadDirectory_of_error hdir hl] at h
      cases h

/-- A catalogue with at most one suite for each group stays one while directories are loaded. If the
last loading succeeds, a full run has each stored case once, by groups in their order, and no two of
its cases share an id. -/
theorem plan_all_of_loaded (hk : k.OnePerGroup) (loads : List (FileTree × String)) :
    (k.loadEach loads).OnePerGroup
    ∧ ∀ before t dir n, loads = before ++ [(t, dir)] →
      ((k.loadEach before).loadDirectory t dir).result = .ok n →
      ∀ policy, ∃ p, Plan.ofSelection (k.loadEach loads) policy .all = .ok p
        ∧ p.cases = Group.all.flatMap (k.loadEach loads).storedOf
        ∧ p.cases.Perm (k.loadEach loads).cases
        ∧ (p.cases.map (·.id)).Nodup
        ∧ p.groups = (k.loadEach loads).implemented := by
  have hone := onePerGroup_loadEach loads hk
  refine ⟨hone, fun before t dir n hloads hok policy => ⟨_, rfl, ?_⟩⟩
  have hcheck : (k.loadEach loads).check = .ok () := by
    rw [hloads, loadEach, List.foldl_append]
    exact check_of_loaded hok
  have hcases := cases_ofGroups_implemented hone.unshadowed
  refine ⟨hcases, hcases ▸ perm_flatMap_storedOf _, ?_, rfl⟩
  exact nodup_ids (apart_flatMap_casesOf hcheck (Plan.nodup_implemented _))

/-- To the built-in suites, a directory with a broken file adds one suite, and another directory
two, of which one replaces it. -/
theorem plan_all_of_loaded_builtin :
    builtin.OnePerGroup ∧ OnePerGroup ⟨[]⟩
      ∧ (∃ e, (builtin.loadDirectory suitesTree "e").result = .error e)
      ∧ ((builtin.loadEach [(suitesTree, "e")]).loadDirectory suitesTree "d").result = .ok 3
      ∧ (builtin.loadEach [(suitesTree, "e"), (suitesTree, "d")]).OnePerGroup
      ∧ ∃ p, Plan.ofSelection (builtin.loadEach [(suitesTree, "e"), (suitesTree, "d")]) .first .all
          = .ok p
        ∧ p.groups = [.frontPanel, .hdcpProfile, .ledControl, .bluetooth, .wifi]
        ∧ p.cases = builtin.cases
          ++ (plainSuite .bluetooth "B").cases ++ (plainSuite .wifi "C").cases := by
  obtain ⟨hd, he⟩ := find_suitesTree
  obtain ⟨-, -, -, hm, e, hn⟩ := load_suitesTree
  have hd := FileTree.isDirectory_iff.2 ⟨_, hd⟩
  have he := FileTree.isDirectory_iff.2 ⟨_, he⟩
  have hbroken : Suite.loadAll suitesTree (suiteSteps suitesTree "e")
      = ([plainSuite .bluetooth "M"], some e) := by
    simp only [steps_suitesTree.2, Suite.loadAll, Suite.loadStep_ok, hm, hn]
  have hread := Suite.loadAll_of_ok read_suitesTree
  have hfirst : builtin.loadEach [(suitesTree, "e")]
      = ⟨builtin.suites ++ [plainSuite .bluetooth "M"]⟩ := by
    rw [loadEach, List.foldl_cons, List.foldl_nil, catalogue_loadDirectory he, hbroken]
    rfl
  have hboth : builtin.loadEach [(suitesTree, "e"), (suitesTree, "d")]
      = ⟨builtin.suites ++ [plainSuite .bluetooth "B", plainSuite .wifi "C"]⟩ := by
    rw [loadEach, List.foldl_cons, List.foldl_cons, List.foldl_nil, catalogue_loadDirectory he,
      hbroken, catalogue_loadDirectory hd, hread]
    rfl
  have hloaded : ((builtin.loadEach [(suitesTree, "e")]).loadDirectory suitesTree "d").result
      = .ok 3 := by
    rw [result_loadDirectory_of_ok hd hread, catalogue_loadDirectory hd, hread, hfirst]
    exact eq_ok_of_toOption (by decide +kernel)
  have hbuiltin : builtin.OnePerGroup := by decide
  obtain ⟨hone, hplan⟩ :=
    plan_all_of_loaded hbuiltin [(suitesTree, "e"), (suitesTree, "d")]
  obtain ⟨p, hp, hcases, -, -, hgroups⟩ :=
    hplan [(suitesTree, "e")] suitesTree "d" 3 rfl hloaded .first
  refine ⟨hbuiltin, by decide, ⟨e, result_loadDirectory_of_error he hbroken⟩, hloaded, hone, p, hp,
    ?_, ?_⟩
  · rw [hgroups, hboth]
    rfl
  · rw [hcases, hboth]
    rfl

end Loaded

end Conformance.Catalogue
