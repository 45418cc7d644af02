import Conformance.Catalogue
import Mathlib.Data.List.Pairwise

/-!
# Keys of a catalogue

A catalogue passes `check` exactly if no two of its cases, counted by position, share a key
(`check_eq_ok_iff`). Cases that are taken from different groups lie in different suites, so the
cases of groups without repeats share no key either (`apart_flatMap_casesOf`).
-/

namespace Conformance

/-- The two cases have no key in common. -/
def TestCase.Apart (c d : TestCase) : Prop := ∀ key ∈ c.keys, key ∉ d.keys

instance : Std.Symm TestCase.Apart where
  symm _ _ h key hd hc := h key hc hd

theorem TestCase.id_mem_keys (c : TestCase) : c.id ∈ c.keys := by
  rw [mem_keys]
  simp [answersTo]

theorem TestCase.Apart.id_ne {c d : TestCase} (h : c.Apart d) : c.id ≠ d.id :=
  fun e => h c.id c.id_mem_keys (e ▸ d.id_mem_keys)

theorem nodup_ids {cases : List TestCase} (h : cases.Pairwise TestCase.Apart) :
    (cases.map (·.id)).Nodup :=
  List.pairwise_map.2 (h.imp fun h => h.id_ne)

namespace Catalogue

variable {k : Catalogue} {g : Group}

/-- No case shares a key with a case before it, and none has a key that is taken. -/
theorem clashesFrom_eq_nil_iff : ∀ {cases : List TestCase} {taken : List String},
    clashesFrom taken cases = [] ↔
      (∀ c ∈ cases, ∀ key ∈ c.keys, key ∉ taken) ∧ cases.Pairwise TestCase.Apart
  | [], taken => by simp [clashesFrom]
  | c :: rest, taken => by
    have ih := @clashesFrom_eq_nil_iff rest (taken ++ c.keys)
    unfold clashesFrom
    rcases hf : c.keys.filter taken.contains with _ | ⟨key, shared⟩
    · have hc : ∀ key ∈ c.keys, key ∉ taken := by simpa using hf
      simp only []
      rw [ih, List.pairwise_cons]
      constructor
      · rintro ⟨h, hp⟩
        refine ⟨fun d hd => ?_, fun d hd key hk hk' => ?_, hp⟩
        · rcases List.mem_cons.1 hd with rfl | hd
          · exact hc
          · exact fun key hk ht => h d hd key hk (List.mem_append_left _ ht)
        · exact h d hd key hk' (List.mem_append_right _ hk)
      · rintro ⟨h, ha, hp⟩
        refine ⟨fun d hd key hk ht => ?_, hp⟩
        rcases List.mem_append.1 ht with ht | ht
        · exact h d (List.mem_cons_of_mem c hd) key hk ht
        · exact ha d hd key ht hk
    · have hmem : key ∈ c.keys.filter taken.contains := hf ▸ List.mem_cons_self
      obtain ⟨hk, ht⟩ : key ∈ c.keys ∧ key ∈ taken := by simpa using hmem
      simp only [reduceCtorEq, false_iff, not_and]
      exact fun h => absurd ht (h c List.mem_cons_self key hk)

theorem clash?_eq_none_iff : k.clash? = none ↔ k.cases.Pairwise TestCase.Apart := by
  rw [clash?, List.head?_eq_none_iff, clashes, clashesFrom_eq_nil_iff]
  simp

/-- A catalogue is accepted if no two of its cases share a key. -/
theorem check_eq_ok_iff : k.check = .ok () ↔ k.cases.Pairwise TestCase.Apart := by
  rw [← clash?_eq_none_iff]
  unfold check
  rcases k.clash? with _ | key <;> simp

theorem suite?_eq_some {s : Suite} (h : k.suite? g = some s) : s ∈ k.suites ∧ s.group = g := by
  unfold suite? at h
  have hg := List.find?_some h
  simp only [Bool.and_eq_true, decide_eq_true_eq] at hg
  exact ⟨List.mem_of_find?_eq_some h, hg.1⟩

/-- A case of a group lies in a stored suite of the group, with all others of the group. -/
theorem mem_casesOf {c : TestCase} (h : c ∈ k.casesOf g) :
    ∃ s ∈ k.suites, s.group = g ∧ k.casesOf g = s.cases := by
  unfold casesOf at h ⊢
  rcases hs : k.suite? g with _ | s <;> rw [hs] at h
  · simp at h
  · exact ⟨s, (suite?_eq_some hs).1, (suite?_eq_some hs).2, rfl⟩

/-- The cases of groups without repeats share no key. -/
theorem apart_flatMap_casesOf (hk : k.check = .ok ()) {groups : List Group} (hg : groups.Nodup) :
    (groups.flatMap k.casesOf).Pairwise TestCase.Apart := by
  have hcases := check_eq_ok_iff.1 hk
  unfold cases at hcases
  rw [List.pairwise_flatMap] at hcases ⊢
  obtain ⟨hin, hacross⟩ := hcases
  refine ⟨fun g _ => ?_, hg.imp ?_⟩
  · rcases hc : k.casesOf g with _ | ⟨c, rest⟩
    · exact List.Pairwise.nil
    · obtain ⟨s, hs, -, he⟩ := mem_casesOf (hc ▸ List.mem_cons_self : c ∈ k.casesOf g)
      rw [← hc, he]
      exact hin s hs
  · intro g g' hne c hc d hd
    obtain ⟨s, hs, hsg, hse⟩ := mem_casesOf hc
    obtain ⟨s', hs', hsg', hse'⟩ := mem_casesOf hd
    have hss : s ≠ s' := by
      rintro rfl
      exact hne (hsg.symm.trans hsg')
    have hsym : Std.Symm fun a b : Suite => ∀ x ∈ a.cases, ∀ y ∈ b.cases, x.Apart y :=
      ⟨fun a b h x hx y hy => Std.Symm.symm y x (h y hy x hx)⟩
    exact hacross.forall hs hs' hss c (hse ▸ hc) d (hse' ▸ hd)

end Catalogue

end Conformance
