import Conformance.Selection
import Conformance.Proofs.Distinct
import Mathlib.Data.List.Infix

/-!
# What targets select

The first target that holds the mark of a test case decides (`ofTargets_of_marked`). Where none does
and the wildcard is missing, every target is accounted for: empty ones do not count, and a pass over
the others (`Found.ofTargets`) keeps a group where it is named first and every target that names
none. Each further target keeps the account (`Accounts.add`), so it holds of all of them
(`accounts_ofTargets`) and of the selection (`ofTargets_cases`, `accounts_of_groups`).
-/

namespace Conformance

theorem occursIn_iff {part : List Char} : ∀ {text : List Char},
    occursIn part text = true ↔ part <:+: text
  | [] => by simp [occursIn]
  | c :: rest => by
    rw [occursIn, Bool.or_eq_true, List.isPrefixOf_iff_prefix, occursIn_iff, List.infix_cons_iff]

theorem selectsCase_iff {target : String} :
    selectsCase target = true ↔ caseMark.toList <:+: target.toList := occursIn_iff

theorem selectsCase_eq_false_iff {target : String} :
    selectsCase target = false ↔ ¬ caseMark.toList <:+: target.toList := by
  rw [← selectsCase_iff, Bool.not_eq_true]

theorem Group.ofName?_eq_some_iff {target : String} {g : Group} :
    ofName? target = some g ↔ g.name = target :=
  ⟨name_of_ofName?, fun h => h ▸ ofName?_name g⟩

theorem Group.ofName?_eq_none_iff {target : String} :
    ofName? target = none ↔ ∀ g : Group, g.name ≠ target := by
  simp [Option.eq_none_iff_forall_ne_some, ofName?_eq_some_iff]

theorem Group.name_ne_empty (g : Group) : g.name ≠ "" := by cases g <;> decide

namespace Selection

/-- The groups that targets name and the targets that name none. -/
structure Found where
  groups : List Group
  others : List String

namespace Found

/-- What is found after one more target. -/
def add (f : Found) (target : String) : Found :=
  match Group.ofName? target with
  | some g => if g ∈ f.groups then f else { f with groups := f.groups ++ [g] }
  | none => if target = "" then f else { f with others := f.others ++ [target] }

def ofTargets (targets : List String) : Found := targets.foldl add ⟨[], []⟩

/-- The groups are those that the targets name, in the order in which they are first named, and the
others are the rest of the targets, without empty ones. -/
structure Accounts (f : Found) (targets : List String) : Prop where
  mem_iff : ∀ g, g ∈ f.groups ↔ g.name ∈ targets
  inOrder : f.groups.Pairwise fun g h => targets.idxOf g.name < targets.idxOf h.name
  others : f.others = targets.filter fun t => t ≠ "" ∧ t ∉ Group.all.map Group.name

variable {f : Found} {targets : List String}

theorem Accounts.nodup (h : f.Accounts targets) : f.groups.Nodup :=
  h.inOrder.imp fun hlt he => absurd (he ▸ hlt) (Nat.lt_irrefl _)

theorem Accounts.inOrder_concat (h : f.Accounts targets) (target : String) :
    f.groups.Pairwise fun g g' =>
      (targets ++ [target]).idxOf g.name < (targets ++ [target]).idxOf g'.name := by
  refine h.inOrder.imp_of_mem fun {g g'} hg hg' hlt => ?_
  rwa [List.idxOf_append_of_mem ((h.mem_iff g).1 hg),
    List.idxOf_append_of_mem ((h.mem_iff g').1 hg')]

theorem Accounts.add_other (h : f.Accounts targets) {target : String}
    (hname : Group.ofName? target = none) : (f.add target).Accounts (targets ++ [target]) := by
  have hnone := Group.ofName?_eq_none_iff.1 hname
  have hnew : target ∉ Group.all.map Group.name := by simpa [Group.mem_all] using hnone
  have hmem : ∀ g, g ∈ f.groups ↔ g.name ∈ targets ++ [target] := by simp [h.mem_iff, hnone]
  have hkept := h.inOrder_concat target
  rw [Found.add, hname]
  by_cases hempty : target = ""
  · simp only [if_pos hempty]
    refine ⟨hmem, hkept, ?_⟩
    rw [List.filter_append, List.filter_cons_of_neg (by simp [hempty]), List.filter_nil,
      List.append_nil, h.others]
  · simp only [if_neg hempty]
    refine ⟨hmem, hkept, ?_⟩
    have hother : decide (target ≠ "" ∧ target ∉ Group.all.map Group.name) = true := by
      simp [hempty, hnew]
    rw [List.filter_append, List.filter_cons, if_pos hother, List.filter_nil, h.others]

theorem Accounts.add_name (h : f.Accounts targets) (g : Group) :
    (f.add g.name).Accounts (targets ++ [g.name]) := by
  have hothers : f.others
      = (targets ++ [g.name]).filter fun t => t ≠ "" ∧ t ∉ Group.all.map Group.name := by
    simp [h.others, List.filter_append, Group.mem_all]
  have hkept := h.inOrder_concat g.name
  rw [Found.add, Group.ofName?_name]
  by_cases hg : g ∈ f.groups
  · -- named before: its first place stays
    simp only [if_pos hg]
    refine ⟨fun g' => ?_, hkept, hothers⟩
    rw [h.mem_iff, List.mem_append, List.mem_singleton]
    exact ⟨.inl, fun h' => h'.elim id fun he => he ▸ (h.mem_iff g).1 hg⟩
  · simp only [if_neg hg]
    refine ⟨fun g' => ?_, ?_, hothers⟩
    · rw [List.mem_append, List.mem_append, h.mem_iff, List.mem_singleton, List.mem_singleton]
      exact or_congr_right ⟨congrArg _, Group.name_injective⟩
    · -- the groups so far are named before the last target, and the new one nowhere before it
      refine List.pairwise_append.2 ⟨hkept, List.pairwise_singleton _ _, fun g' hg' => ?_⟩
      have hbefore := (h.mem_iff g').1 hg'
      have hnot : g.name ∉ targets := mt (h.mem_iff g).2 hg
      simpa [List.idxOf_append_of_mem hbefore, List.idxOf_append_of_notMem hnot]
        using List.idxOf_lt_length_of_mem hbefore

/-- One more target keeps the account. -/
theorem Accounts.add (h : f.Accounts targets) (target : String) :
    (f.add target).Accounts (targets ++ [target]) := by
  rcases hname : Group.ofName? target with _ | g
  · exact h.add_other hname
  · obtain rfl := Group.name_of_ofName? hname
    exact h.add_name g

theorem add_empty (f : Found) : f.add "" = f := by
  have hname : Group.ofName? "" = none := Group.ofName?_eq_none_iff.2 Group.name_ne_empty
  rw [add, hname]
  rfl

theorem ofTargets_filter (targets : List String) :
    ofTargets (targets.filter (· ≠ "")) = ofTargets targets := by
  unfold ofTargets
  rw [List.foldl_filter]
  congr
  funext f target
  by_cases h : target = ""
  · rw [if_neg (by simpa using h), h, add_empty]
  · rw [if_pos (by simpa using h)]

/-- One pass finds what naming all targets first and removing repeats afterwards does. -/
theorem ofTargets_eq (h : "" ∉ targets) :
    ofTargets targets = ⟨(targets.filterMap Group.ofName?).eraseDups,
      targets.filter fun t => (Group.ofName? t).isNone⟩ := by
  induction targets using List.reverseRecOn with
  | nil => rfl
  | append_singleton targets target ih =>
    simp only [List.mem_append, List.mem_singleton, not_or] at h
    rw [ofTargets, List.foldl_concat, ← ofTargets, ih h.1, List.filterMap_append,
      List.filter_append]
    rcases hname : Group.ofName? target with _ | g
    · simp [add, hname, Ne.symm h.2]
    · have hone : [target].filterMap Group.ofName? = [g] := by simp [hname]
      rw [hone, eraseDups_concat]
      simp only [add, hname, List.mem_eraseDups]
      split_ifs <;> simp [hname]

theorem accounts_ofTargets (targets : List String) : (ofTargets targets).Accounts targets := by
  induction targets using List.reverseRecOn with
  | nil => exact ⟨by simp [ofTargets], List.Pairwise.nil, rfl⟩
  | append_singleton targets target ih =>
    rw [ofTargets, List.foldl_concat]
    exact ih.add target

/-- The selection by groups, if any are found. -/
def selection (f : Found) : Selection :=
  match f.groups with
  | [] => .unrecognized f.others
  | gs => .groups gs f.others

theorem byGroups_eq (h : "" ∉ targets) : byGroups targets = (ofTargets targets).selection := by
  rw [ofTargets_eq h]
  rfl

theorem selection_eq_groups {groups : List Group} {ignored : List String} :
    f.selection = .groups groups ignored ↔ f = ⟨groups, ignored⟩ ∧ groups ≠ [] := by
  obtain ⟨_ | ⟨g, rest⟩, others⟩ := f
  · refine ⟨nofun, fun ⟨h, hne⟩ => ?_⟩
    cases h
    exact absurd rfl hne
  · refine ⟨fun h => ?_, fun ⟨h, _⟩ => ?_⟩ <;> cases h
    · exact ⟨rfl, List.cons_ne_nil g rest⟩
    · rfl

end Found

variable {targets before after : List String} {key : String}

theorem ne_empty_of_selectsCase (h : selectsCase key = true) : key ≠ "" := by
  rintro rfl
  exact absurd h (by decide)

theorem find?_selectsCase (hmark : ∀ t ∈ targets, selectsCase t = false) :
    (targets.filter (· ≠ "")).find? selectsCase = none :=
  List.find?_eq_none.2 fun t ht => by simp [hmark t (List.mem_of_mem_filter ht)]

/-- The first target with the mark of a test case decides, whatever the others are. -/
theorem ofTargets_of_marked (hbefore : ∀ t ∈ before, selectsCase t = false)
    (hkey : selectsCase key = true) : ofTargets (before ++ key :: after) = .single key := by
  unfold ofTargets
  simp only []
  rw [List.filter_append, List.filter_cons_of_pos (by simpa using ne_empty_of_selectsCase hkey),
    List.find?_append, find?_selectsCase hbefore, List.find?_cons_of_pos hkey]
  rfl

/-- Without such a target, the wildcard selects every group, whatever stands beside it. -/
theorem ofTargets_of_wildcard (hmark : ∀ t ∈ targets, selectsCase t = false)
    (hall : wildcard ∈ targets) : ofTargets targets = .all := by
  have hmem : wildcard ∈ targets.filter (· ≠ "") := List.mem_filter.2 ⟨hall, by decide⟩
  unfold ofTargets
  simp only [find?_selectsCase hmark]
  rw [if_neg (by simpa using List.ne_nil_of_mem hmem), if_pos (List.contains_iff_mem.2 hmem)]

/-- Without such a target and without the wildcard, what is found among the targets decides. -/
theorem ofTargets_of_unmarked (hmark : ∀ t ∈ targets, selectsCase t = false)
    (hall : wildcard ∉ targets) : ofTargets targets =
      if ∀ t ∈ targets, t = "" then .nothing else (Found.ofTargets targets).selection := by
  have hempty : (targets.filter (· ≠ "")).isEmpty = true ↔ ∀ t ∈ targets, t = "" := by
    simp [List.filter_eq_nil_iff]
  unfold ofTargets
  simp only [find?_selectsCase hmark, hempty]
  congr 1
  rw [if_neg (by simp [hall]), Found.byGroups_eq (by simp), Found.ofTargets_filter]

/-- Without such a target and without the wildcard, nothing is given, or nothing is recognised, or
the groups are selected that are named. -/
theorem ofTargets_cases (hmark : ∀ t ∈ targets, selectsCase t = false) (hall : wildcard ∉ targets) :
    let others := targets.filter fun t => t ≠ "" ∧ t ∉ Group.all.map Group.name
    (ofTargets targets = .nothing ∧ ∀ t ∈ targets, t = "")
    ∨ (ofTargets targets = .unrecognized others ∧ (∃ t ∈ targets, t ≠ "")
      ∧ ∀ g : Group, g.name ∉ targets)
    ∨ ∃ groups, ofTargets targets = .groups groups others ∧ (∃ g : Group, g.name ∈ targets)
      ∧ Found.Accounts ⟨groups, others⟩ targets := by
  intro others
  rw [ofTargets_of_unmarked hmark hall]
  split_ifs with hempty
  · exact .inl ⟨rfl, hempty⟩
  refine .inr ?_
  have haccounts := Found.accounts_ofTargets targets
  generalize Found.ofTargets targets = f at haccounts ⊢
  obtain ⟨_ | ⟨g, rest⟩, found⟩ := f
  · obtain rfl : found = others := haccounts.others
    refine .inl ⟨rfl, by simpa using hempty, fun g hg => ?_⟩
    exact List.not_mem_nil ((haccounts.mem_iff g).2 hg)
  · obtain rfl : found = others := haccounts.others
    exact .inr ⟨g :: rest, rfl, ⟨g, (haccounts.mem_iff g).1 List.mem_cons_self⟩, haccounts⟩

theorem found_of_groups {groups : List Group} {ignored : List String}
    (h : ofTargets targets = .groups groups ignored) :
    Found.ofTargets targets = ⟨groups, ignored⟩ ∧ groups ≠ [] := by
  unfold ofTargets at h
  simp only [] at h
  split at h
  · cases h
  · split_ifs at h
    rw [Found.byGroups_eq (by simp), Found.ofTargets_filter] at h
    exact Found.selection_eq_groups.1 h

theorem accounts_of_groups {groups : List Group} {ignored : List String}
    (h : ofTargets targets = .groups groups ignored) :
    Found.Accounts ⟨groups, ignored⟩ targets :=
  (found_of_groups h).1 ▸ Found.accounts_ofTargets targets

theorem nodup_ofTargets {groups : List Group} {ignored : List String}
    (h : ofTargets targets = .groups groups ignored) : groups.Nodup :=
  (accounts_of_groups h).nodup

end Selection

end Conformance
