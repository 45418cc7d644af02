import Conformance.Proofs.Catalogue.Loading
import Conformance.Proofs.Except

/-!
# Keys that are shared

Two stored cases at different positions share a key if it is the name or the id of both. The scan
for clashes stops at the first case that shares one with a case before it (`clashesFrom_split`):
what it has passed is free of clashes. So a catalogue is refused exactly if a key is shared, and the
key that is reported lies at the first place where one is, as all do that could have been reported
in its stead (`ofSuites_shared_iff`). In a catalogue that is accepted, a key leads to one case at
most (`find?_of_answersTo`).
-/

namespace Conformance

/-- The key is the name or the id of the cases at both positions. -/
def TestCase.SharedAt (cases : List TestCase) (key : String) (i j : Nat) : Prop :=
  ∃ c d, cases[i]? = some c ∧ cases[j]? = some d
    ∧ (key = c.name ∨ key = c.id) ∧ (key = d.name ∨ key = d.id)

namespace TestCase

variable {cases : List TestCase} {key : String} {c : TestCase}

theorem answersTo_iff : c.answersTo key = true ↔ key = c.name ∨ key = c.id := by
  rw [answersTo, Bool.or_eq_true, beq_iff_eq, beq_iff_eq]
  exact or_congr eq_comm eq_comm

theorem mem_keys_iff : key ∈ c.keys ↔ key = c.name ∨ key = c.id :=
  (mem_keys c key).trans answersTo_iff

theorem SharedAt.symm {i j : Nat} (h : SharedAt cases key i j) : SharedAt cases key j i := by
  obtain ⟨c, d, hc, hd, hkc, hkd⟩ := h
  exact ⟨d, c, hd, hc, hkd, hkc⟩

/-- Cases are apart if none shares a key with one before it. -/
theorem pairwise_apart_iff :
    cases.Pairwise Apart ↔ ∀ key i j, j < i → ¬ SharedAt cases key j i := by
  rw [List.pairwise_iff_getElem]
  constructor
  · rintro h key i j hij ⟨c, d, hc, hd, hkc, hkd⟩
    obtain ⟨hj, rfl⟩ := List.getElem?_eq_some_iff.1 hc
    obtain ⟨hi, rfl⟩ := List.getElem?_eq_some_iff.1 hd
    exact h j i hj hi hij key (mem_keys_iff.2 hkc) (mem_keys_iff.2 hkd)
  · intro h j i hj hi hij key hkc hkd
    exact h key i j hij ⟨cases[j], cases[i], List.getElem?_eq_getElem hj,
      List.getElem?_eq_getElem hi, mem_keys_iff.1 hkc, mem_keys_iff.1 hkd⟩

/-- Of cases that share no key, one alone answers to a key. -/
theorem filter_answersTo {α : Type} {f : α → TestCase} {l : List α}
    (h : (l.map f).Pairwise Apart) {a : α} (ha : a ∈ l) (hkey : (f a).answersTo key = true) :
    l.filter (fun b => (f b).answersTo key) = [a] := by
  obtain ⟨before, after, rfl⟩ := List.append_of_mem ha
  rw [List.pairwise_map, List.pairwise_append, List.pairwise_cons] at h
  obtain ⟨-, ⟨hafter, -⟩, hbefore⟩ := h
  have hmem := (mem_keys (f a) key).2 hkey
  have hnone : ∀ b, (f b).Apart (f a) → (f b).answersTo key = false := by
    intro b hb
    rw [← Bool.not_eq_true, ← mem_keys]
    exact fun hk => hb key hk hmem
  rw [List.filter_append, List.filter_cons, if_pos hkey,
    List.filter_eq_nil_iff.2 fun b hb => by simp [hnone b (hbefore b hb a List.mem_cons_self)],
    List.filter_eq_nil_iff.2 fun b hb => by simp [hnone b (symm (hafter b hb))], List.nil_append]

end TestCase

namespace Catalogue

open TestCase (SharedAt)

/-- The scan stops at a case that has a taken key or one of a case before it, and not earlier, and
finds all such keys of the case. -/
theorem clashesFrom_split : ∀ {cases : List TestCase} {taken : List String},
    clashesFrom taken cases ≠ [] →
      ∃ before c after, cases = before ++ c :: after ∧ clashesFrom taken before = []
        ∧ ∀ key, key ∈ clashesFrom taken cases
          ↔ key ∈ c.keys ∧ (key ∈ taken ∨ ∃ b ∈ before, key ∈ b.keys)
  | [], taken, h => absurd rfl h
  | c :: rest, taken, h => by
    unfold clashesFrom at h ⊢
    rcases hf : c.keys.filter taken.contains with _ | ⟨first, shared⟩ <;> simp only [hf] at h ⊢
    · -- the case is passed, and its keys are taken from here on
      obtain ⟨before, d, after, rfl, hnone, hkeys⟩ := clashesFrom_split h
      refine ⟨c :: before, d, after, rfl, ?_, fun key => ?_⟩
      · simp only [hf, hnone]
      · rw [hkeys, List.mem_append, or_assoc, List.exists_mem_cons_iff]
    · refine ⟨[], c, rest, rfl, rfl, fun key => ?_⟩
      rw [← hf]
      simp

/-- The scan of all cases stops at the first position whose case shares a key with one before it,
and finds all keys that it shares. -/
theorem clashes_at {k : Catalogue} (h : k.clashes ≠ []) :
    ∃ i, (∀ key, key ∈ k.clashes ↔ ∃ j < i, SharedAt k.cases key j i)
      ∧ ∀ key' j' i', j' < i' → SharedAt k.cases key' j' i' → i ≤ i' := by
  obtain ⟨before, c, after, hcases, hnone, hkeys⟩ := clashesFrom_split h
  have hfree := TestCase.pairwise_apart_iff.1 (clashesFrom_eq_nil_iff.1 hnone).2
  have hc : (before ++ c :: after)[before.length]? = some c := by simp
  have hbefore : ∀ {j}, j < before.length → (before ++ c :: after)[j]? = before[j]? :=
    fun hj => List.getElem?_append_left hj
  rw [hcases]
  refine ⟨before.length, fun key => (hkeys key).trans ?_, ?_⟩
  · constructor
    · rintro ⟨hkc, htaken | ⟨b, hb, hkb⟩⟩
      · cases htaken
      obtain ⟨j, hj, rfl⟩ := List.getElem_of_mem hb
      exact ⟨j, hj, before[j], c, by rw [hbefore hj, List.getElem?_eq_getElem hj], hc,
        TestCase.mem_keys_iff.1 hkb, TestCase.mem_keys_iff.1 hkc⟩
    · rintro ⟨j, hj, b, d, hb, hd, hkb, hkd⟩
      rw [hbefore hj] at hb
      obtain rfl : c = d := Option.some.inj (hc.symm.trans hd)
      exact ⟨TestCase.mem_keys_iff.2 hkd,
        .inr ⟨b, List.mem_of_getElem? hb, TestCase.mem_keys_iff.2 hkb⟩⟩
  · -- an earlier clash would be one among the cases that were passed
    rintro key' j' i' hlt ⟨d, e, hd, he, hkd, hke⟩
    by_contra hi
    rw [hbefore (by omega)] at hd he
    exact hfree key' i' j' hlt ⟨d, e, hd, he, hkd, hke⟩

theorem ofSuites_of_clash {suites : List Suite} {key : String} (h : clash? ⟨suites⟩ = some key) :
    ofSuites suites = .error (.duplicateCase key) := by
  simp [ofSuites, check, h]

theorem ofSuites_of_free {suites : List Suite} (h : clash? ⟨suites⟩ = none) :
    ofSuites suites = .ok ⟨suites⟩ := by
  simp [ofSuites, check, h]

/-- A catalogue is accepted exactly if no key is shared by cases at two positions. Otherwise the key
that is reported is one of the first case that shares a key with a case before it, and of such a
case. The keys of which this holds are those among which the report had a choice. -/
theorem ofSuites_shared_iff (suites : List Suite) :
    let stored := suites.flatMap (·.cases)
    (ofSuites suites = .ok ⟨suites⟩ ↔ ∀ key i j, i ≠ j → ¬ SharedAt stored key i j)
    ∧ (ofSuites suites ≠ .ok ⟨suites⟩ →
        ∃ key j i, ofSuites suites = .error (.duplicateCase key) ∧ j < i ∧ SharedAt stored key j i
          ∧ (∀ key' j' i', j' < i' → SharedAt stored key' j' i' → i ≤ i')
          ∧ ∀ key', key' ∈ clashes ⟨suites⟩ ↔ ∃ j' < i, SharedAt stored key' j' i) := by
  intro stored
  rcases hc : clash? ⟨suites⟩ with _ | key
  · have hok := ofSuites_of_free hc
    have hfree := TestCase.pairwise_apart_iff.1 (clash?_eq_none_iff.1 hc)
    refine ⟨⟨fun _ key i j hne hshared => ?_, fun _ => hok⟩, fun h => absurd hok h⟩
    rcases Nat.lt_or_gt_of_ne hne with hlt | hlt
    · exact hfree key j i hlt hshared
    · exact hfree key i j hlt hshared.symm
  · have herror := ofSuites_of_clash hc
    have hmem : key ∈ clashes ⟨suites⟩ := List.mem_of_mem_head? hc
    obtain ⟨i, hkeys, hfirst⟩ := clashes_at (List.ne_nil_of_mem hmem)
    obtain ⟨j, hlt, hshared⟩ := (hkeys key).1 hmem
    refine ⟨⟨fun h => ?_, fun h => ?_⟩, fun _ => ⟨key, j, i, herror, hlt, hshared, hfirst, hkeys⟩⟩
    · simp [herror] at h
    · exact absurd hshared (h key j i (Nat.ne_of_lt hlt))

/-- The name of a case is the id of one in another suite. A name that is the case's own id, as that
of the first case, is shared by nobody. -/
theorem ofSuites_shared_iff_crossing :
    let named : String → String → TestCase := fun name id => ⟨name, id, "", [], "", "", none⟩
    let suites : List Suite := [⟨.wifi, none, "", [named "A" "A", named "B" "C"]⟩,
      ⟨.bluetooth, none, "", [named "C" "D", named "A" "E"]⟩]
    ofSuites suites = .error (.duplicateCase "C")
      ∧ (∃ key i j, i ≠ j ∧ SharedAt (suites.flatMap (·.cases)) key i j)
      ∧ ofSuites (suites.take 1) = .ok ⟨suites.take 1⟩
      ∧ ∀ key, ¬ SharedAt ((suites.take 1).flatMap (·.cases)) key 0 1 := by
  intro named suites
  have herror : ofSuites suites = .error (.duplicateCase "C") :=
    ofSuites_of_clash (by decide +kernel)
  have hok : ofSuites (suites.take 1) = .ok ⟨suites.take 1⟩ := ofSuites_of_free (by decide +kernel)
  have hrefused : ofSuites suites ≠ .ok ⟨suites⟩ := by simp [herror]
  obtain ⟨key, j, i, -, hlt, hshared, -⟩ := (ofSuites_shared_iff suites).2 hrefused
  exact ⟨herror, ⟨key, j, i, Nat.ne_of_lt hlt, hshared⟩, hok,
    fun key => (ofSuites_shared_iff (suites.take 1)).1.1 hok key 0 1 (by decide)⟩

section Lookup

variable {suites : List Suite} {k : Catalogue} {key : String} {g : Group} {c : TestCase}

theorem suites_of_ofSuites (h : ofSuites suites = .ok k) :
    k.suites = suites ∧ k.check = .ok () := by
  unfold ofSuites at h
  obtain ⟨_, hcheck, hk⟩ := bind_eq_ok_iff.1 h
  cases hk
  exact ⟨rfl, hcheck⟩

theorem mem_entries_iff : (g, c) ∈ k.entries ↔ ∃ s ∈ k.suites, s.group = g ∧ c ∈ s.cases := by
  unfold entries
  simp only [List.mem_flatMap, List.mem_map, Prod.mk.injEq]
  constructor
  · rintro ⟨s, hs, d, hd, hg, rfl⟩
    exact ⟨s, hs, hg, hd⟩
  · rintro ⟨s, hs, hg, hc⟩
    exact ⟨s, hs, c, hc, hg, rfl⟩

theorem map_entries (k : Catalogue) : k.entries.map (·.2) = k.cases := by
  unfold entries cases
  simp [List.map_flatMap, Function.comp_def]

/-- In an accepted catalogue, one stored case alone answers to its key. -/
theorem filter_entries (hk : k.check = .ok ()) (he : (g, c) ∈ k.entries)
    (hkey : c.answersTo key = true) : k.entries.filter (·.2.answersTo key) = [(g, c)] := by
  refine TestCase.filter_answersTo (f := (·.2)) ?_ he hkey
  rw [map_entries]
  exact check_eq_ok_iff.1 hk

theorem find?_of_answersTo (hk : k.check = .ok ()) (he : (g, c) ∈ k.entries)
    (hkey : c.answersTo key = true) : k.find? key = some (g, c) := by
  unfold find?
  rw [← List.head?_filter, filter_entries hk he hkey]
  rfl

theorem filter_cases (hk : k.check = .ok ()) (he : (g, c) ∈ k.entries)
    (hkey : c.answersTo key = true) : k.cases.filter (·.answersTo key) = [c] := by
  rw [← map_entries, List.filter_map]
  exact congrArg (List.map _) (filter_entries hk he hkey)

theorem find?_eq_none_iff :
    k.find? key = none ↔ ∀ g c, (g, c) ∈ k.entries → key ≠ c.name ∧ key ≠ c.id := by
  unfold find?
  simp [List.find?_eq_none, TestCase.answersTo_iff]

end Lookup

end Catalogue

end Conformance
