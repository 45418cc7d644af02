import Conformance.FileTree
import Mathlib.Data.List.Nodup
import Mathlib.Data.List.Perm.Subperm
import Mathlib.Data.String.Basic
import Mathlib.Tactic.SplitIfs

/-!
# The order of a walk

What lies below a place is told by names: they lead to something, and to directories on the way
(`Below`). These lists of names, in rising order, are the order of a walk (`walk_eq`): a directory
comes before what it holds, and what one directory holds by rising names. Where the path of a
directory is too long to enter it, the walk has an error instead of what lies below.
-/

namespace Conformance.FileTree

variable {t : FileTree} {p : Place} {dir name : String} {names : List String}

/-- The names lead from the place to something, and on the way to directories. -/
structure Below (t : FileTree) (p : Place) (names : List String) : Prop where
  there : t.lookup (p ++ names) ≠ none
  through : ∀ i < names.length, t.lookup (p ++ names.take i) = some .directory

/-- The path of what names lead to, seen from a directory. -/
def pathBelow (dir : String) (names : List String) : String := names.foldl Path.join dir

/-- The paths of the directories on the way are short enough to enter them. -/
def Entered (dir : String) (names : List String) : Prop :=
  ∀ i < names.length, (pathBelow dir (names.take i)).utf8ByteSize < 4096

instance : DecidablePred (Entered dir) := fun names =>
  inferInstanceAs (Decidable (∀ i < names.length, _))

/-- What a walk has to say on what the names lead to. -/
def stepsAt (t : FileTree) (p : Place) (dir : String) (names : List String) :
    List (Except FileError String) :=
  .ok (pathBelow dir names) ::
    if t.lookup (p ++ names) = some .directory ∧ 4096 ≤ (pathBelow dir names).utf8ByteSize then
      [.error (.onWalk (pathBelow dir names) .nameTooLong)]
    else []

/-- The names of what lies below a place, as far down as the fuel goes. -/
def namesBelow (t : FileTree) : Nat → Place → List (List String)
  | 0, _ => [[]]
  | fuel + 1, p =>
    [] ::
      if t.lookup p = some .directory then
        (t.namesIn p).flatMap fun name => (t.namesBelow fuel (p ++ [name])).map (name :: ·)
      else []

section Names

theorem mem_insertName {a : String} : ∀ {l : List String},
    a ∈ insertName name l ↔ a = name ∨ a ∈ l
  | [] => by simp [insertName]
  | n :: rest => by
    unfold insertName
    split_ifs with heq hlt
    · simp [heq]
    · exact List.mem_cons
    · rw [List.mem_cons, mem_insertName, List.mem_cons]
      exact or_left_comm

theorem pairwise_insertName (name : String) : ∀ {l : List String}, l.Pairwise (· < ·) →
    (insertName name l).Pairwise (· < ·)
  | [], _ => List.pairwise_singleton _ _
  | n :: rest, h => by
    obtain ⟨hn, hrest⟩ := List.pairwise_cons.1 h
    unfold insertName
    split_ifs with heq hlt
    · exact h
    · refine List.pairwise_cons.2 ⟨fun a ha => ?_, h⟩
      rcases List.mem_cons.1 ha with rfl | ha
      · exact hlt
      · exact hlt.trans (hn a ha)
    · refine List.pairwise_cons.2 ⟨fun a ha => ?_, pairwise_insertName name hrest⟩
      rcases mem_insertName.1 ha with rfl | ha
      · exact lt_of_le_of_ne (not_lt.1 hlt) (Ne.symm heq)
      · exact hn a ha

theorem mem_foldr_insertName {a : String} : ∀ {l : List String},
    a ∈ l.foldr insertName [] ↔ a ∈ l
  | [] => Iff.rfl
  | n :: rest => by rw [List.foldr_cons, mem_insertName, mem_foldr_insertName, List.mem_cons]

theorem mem_namesIn : name ∈ t.namesIn p ↔ t.lookup (p ++ [name]) ≠ none := by
  have hplace : ∀ q : Place, q.dropLast = p ∧ q.getLast? = some name ↔ q = p ++ [name] := by
    intro q
    rw [List.getLast?_eq_some_iff]
    constructor
    · rintro ⟨rfl, ys, rfl⟩
      rw [List.dropLast_concat]
    · rintro rfl
      exact ⟨List.dropLast_concat, p, rfl⟩
  unfold namesIn lookup
  rw [mem_foldr_insertName, List.mem_filterMap, if_neg (by simp), ne_eq, Option.map_eq_none_iff,
    List.find?_eq_none]
  simp [hplace]

theorem pairwise_namesIn (t : FileTree) (p : Place) : (t.namesIn p).Pairwise (· < ·) := by
  unfold namesIn
  induction t.entries.filterMap _ with
  | nil => exact List.Pairwise.nil
  | cons name names ih => exact pairwise_insertName name ih

end Names

section Below

theorem below_nil : t.Below p [] ↔ t.lookup p ≠ none := by
  constructor
  · rintro ⟨h, -⟩
    rwa [List.append_nil] at h
  · intro h
    exact ⟨by rwa [List.append_nil], fun i hi => absurd hi (Nat.not_lt_zero i)⟩

theorem below_cons :
    t.Below p (name :: names) ↔ t.lookup p = some .directory ∧ t.Below (p ++ [name]) names := by
  have happend : ∀ l : List String, p ++ name :: l = p ++ [name] ++ l := by simp
  constructor
  · rintro ⟨hthere, hthrough⟩
    refine ⟨by simpa using hthrough 0 (Nat.zero_lt_succ _), happend names ▸ hthere, ?_⟩
    intro i hi
    have h := hthrough (i + 1) (Nat.succ_lt_succ hi)
    rwa [List.take_succ_cons, happend] at h
  · rintro ⟨hp, hthere, hthrough⟩
    refine ⟨happend names ▸ hthere, fun i hi => ?_⟩
    rcases i with _ | i
    · simpa using hp
    · rw [List.take_succ_cons, happend]
      exact hthrough i (Nat.lt_of_succ_lt_succ hi)

theorem Below.lookup_ne_none (h : t.Below p names) : t.lookup p ≠ none := by
  rcases names with _ | ⟨name, names⟩
  · exact below_nil.1 h
  · rw [(below_cons.1 h).1]
    exact Option.some_ne_none _

theorem mem_places_of_lookup (hp : p ≠ []) (h : t.lookup p ≠ none) :
    p ∈ t.entries.map (·.1) := by
  unfold lookup at h
  rw [if_neg hp, ne_eq, Option.map_eq_none_iff, ← ne_eq, Option.ne_none_iff_exists'] at h
  obtain ⟨e, he⟩ := h
  have hplace : e.1 = p := by simpa using List.find?_some he
  exact hplace ▸ List.mem_map_of_mem (List.mem_of_find?_eq_some he)

/-- There are no more names on the way than entries. -/
theorem Below.length_le (h : t.Below p names) : names.length ≤ t.entries.length := by
  have hentry : ∀ i < names.length, p ++ names.take (i + 1) ∈ t.entries.map (·.1) := by
    intro i hi
    refine mem_places_of_lookup (fun hnil => ?_) ?_
    · have hlen := congrArg List.length hnil
      simp only [List.length_append, List.length_take, List.length_nil] at hlen
      omega
    · rcases Nat.lt_or_ge (i + 1) names.length with hlt | hge
      · rw [h.through _ hlt]
        exact Option.some_ne_none _
      · rw [List.take_of_length_le hge]
        exact h.there
  -- the places on the way differ, for each has one name more than the one before
  have hnodup : ((List.range names.length).map fun i => p ++ names.take (i + 1)).Nodup := by
    refine List.Nodup.map_on (fun i hi j hj hij => ?_) List.nodup_range
    have hlen := congrArg List.length hij
    rw [List.mem_range] at hi hj
    simp only [List.length_append, List.length_take] at hlen
    omega
  have hsub : ((List.range names.length).map fun i => p ++ names.take (i + 1))
      ⊆ t.entries.map (·.1) := by
    intro q hq
    obtain ⟨i, hi, rfl⟩ := List.mem_map.1 hq
    exact hentry i (List.mem_range.1 hi)
  simpa using (hnodup.subperm hsub).length_le

end Below

section Enumeration

theorem mem_namesBelow : ∀ {fuel : Nat} {p : Place} {names : List String}, t.lookup p ≠ none →
    (names ∈ t.namesBelow fuel p ↔ t.Below p names ∧ names.length ≤ fuel)
  | 0, p, [], hp => by simp [namesBelow, below_nil, hp]
  | 0, p, name :: names, hp => by simp [namesBelow]
  | fuel + 1, p, [], hp => by simp [namesBelow, below_nil, hp]
  | fuel + 1, p, name :: names, hp => by
    rw [namesBelow, below_cons]
    by_cases hd : t.lookup p = some .directory
    · have ih : t.lookup (p ++ [name]) ≠ none → (names ∈ t.namesBelow fuel (p ++ [name]) ↔ _) :=
        mem_namesBelow
      rw [if_pos hd, List.length_cons, Nat.succ_le_succ_iff]
      constructor
      · intro h
        rcases List.mem_cons.1 h with h | h
        · cases h
        obtain ⟨first, hfirst, h⟩ := List.mem_flatMap.1 h
        obtain ⟨rest, hrest, h⟩ := List.mem_map.1 h
        obtain ⟨rfl, rfl⟩ := List.cons.inj h
        obtain ⟨hbelow, hlen⟩ := (ih (mem_namesIn.1 hfirst)).1 hrest
        exact ⟨⟨hd, hbelow⟩, hlen⟩
      · rintro ⟨⟨-, hbelow⟩, hlen⟩
        have hthere := hbelow.lookup_ne_none
        refine List.mem_cons_of_mem _ (List.mem_flatMap.2 ⟨name, mem_namesIn.2 hthere, ?_⟩)
        exact List.mem_map_of_mem ((ih hthere).2 ⟨hbelow, hlen⟩)
    · rw [if_neg hd]
      simp [hd]

/-- There is enough fuel for all that lies below. -/
theorem mem_namesBelow_length (hp : t.lookup p ≠ none) :
    names ∈ t.namesBelow (t.entries.length + 1) p ↔ t.Below p names := by
  rw [mem_namesBelow hp]
  exact and_iff_left_of_imp fun h => h.length_le.trans (Nat.le_succ _)

theorem pairwise_namesBelow (t : FileTree) :
    ∀ (fuel : Nat) (p : Place), (t.namesBelow fuel p).Pairwise (· < ·)
  | 0, p => List.pairwise_singleton _ _
  | fuel + 1, p => by
    rw [namesBelow, List.pairwise_cons]
    split
    · refine ⟨fun names h => ?_, List.pairwise_flatMap.2 ⟨fun name _ => ?_, ?_⟩⟩
      · obtain ⟨name, -, h⟩ := List.mem_flatMap.1 h
        obtain ⟨rest, -, rfl⟩ := List.mem_map.1 h
        exact List.nil_lt_cons name rest
      · refine List.pairwise_map.2 ((pairwise_namesBelow t fuel (p ++ [name])).imp fun h => ?_)
        exact List.cons_lt_cons_iff.2 (.inr ⟨rfl, h⟩)
      · refine (pairwise_namesIn t p).imp fun hlt names h names' h' => ?_
        obtain ⟨rest, -, rfl⟩ := List.mem_map.1 h
        obtain ⟨rest', -, rfl⟩ := List.mem_map.1 h'
        exact List.cons_lt_cons_iff.2 (.inl hlt)
    · exact ⟨nofun, List.Pairwise.nil⟩

end Enumeration

section Steps

theorem entered_nil (dir : String) : Entered dir [] := fun i hi => absurd hi (Nat.not_lt_zero i)

theorem entered_cons : Entered dir (name :: names)
    ↔ dir.utf8ByteSize < 4096 ∧ Entered (Path.join dir name) names := by
  constructor
  · intro h
    exact ⟨h 0 (Nat.zero_lt_succ _), fun i hi => h (i + 1) (Nat.succ_lt_succ hi)⟩
  · rintro ⟨hdir, h⟩ i hi
    rcases i with _ | i
    · exact hdir
    · exact h i (Nat.lt_of_succ_lt_succ hi)

theorem stepsAt_cons (t : FileTree) (p : Place) (dir name : String) (names : List String) :
    t.stepsAt p dir (name :: names) = t.stepsAt (p ++ [name]) (Path.join dir name) names := by
  unfold stepsAt
  rw [List.append_assoc, List.singleton_append]
  rfl

theorem stepsAt_nil_of_ne (h : t.lookup p ≠ some .directory) (dir : String) :
    t.stepsAt p dir [] = [.ok dir] := by
  simp [stepsAt, pathBelow, h]

theorem walkFrom_eq : ∀ {fuel : Nat} {p : Place} {dir : String}, t.lookup p ≠ none →
    (∀ names, t.Below p names → names.length < fuel) →
    t.walkFrom fuel p dir = ((t.namesBelow fuel p).filter (Entered dir)).flatMap (t.stepsAt p dir)
  | 0, p, dir, hp, hfuel => absurd (hfuel [] (below_nil.2 hp)) (Nat.not_lt_zero _)
  | fuel + 1, p, dir, hp, hfuel => by
    have hnil : decide (Entered dir []) = true := decide_eq_true (entered_nil dir)
    unfold walkFrom namesBelow
    rw [List.filter_cons, if_pos hnil, List.flatMap_cons]
    rcases he : t.lookup p with _ | (_ | ⟨content, x⟩)
    · exact absurd he hp
    · rw [if_pos rfl, List.filter_flatMap]
      simp only [List.filter_map]
      split
      next hlong =>
        -- the walk cannot enter, and what lies below is not entered
        have hnone : ∀ l : List (List String), ∀ name,
            l.filter ((fun names => decide (Entered dir names)) ∘ (name :: ·)) = [] := by
          intro l name
          refine List.filter_eq_nil_iff.2 fun names _ => ?_
          simp only [Function.comp_apply, decide_eq_true_eq, entered_cons]
          omega
        simp [hnone, stepsAt, pathBelow, he, hlong]
      next hshort =>
        have hsteps : t.stepsAt p dir [] = [.ok dir] := by simp [stepsAt, pathBelow, hshort]
        rw [hsteps, List.singleton_append, List.flatMap_assoc]
        congr 1
        refine List.flatMap_congr fun name hname => ?_
        have hfilter : ((fun names => decide (Entered dir names)) ∘ (name :: ·))
            = fun names => decide (Entered (Path.join dir name) names) := by
          funext names
          simp only [Function.comp_apply, entered_cons, decide_eq_decide]
          exact and_iff_right (Nat.lt_of_not_le hshort)
        rw [hfilter, List.flatMap_map]
        simp only [stepsAt_cons]
        refine walkFrom_eq (mem_namesIn.1 hname) fun names hbelow => ?_
        exact Nat.lt_of_succ_lt_succ (hfuel (name :: names) (below_cons.2 ⟨he, hbelow⟩))
    · rw [stepsAt_nil_of_ne (by simp [he])]
      simp

/-- A walk comes to all that lies below the directory, as far as it can be entered, in the rising
order of the names. -/
theorem walk_eq (hl : t.locate dir = .ok p) (hp : t.lookup p ≠ none) :
    ∃ below : List (List String), below.Pairwise (· < ·)
      ∧ (∀ names, names ∈ below ↔ t.Below p names)
      ∧ t.walk dir = (below.filter (Entered dir)).flatMap (t.stepsAt p dir) := by
  refine ⟨t.namesBelow (t.entries.length + 1) p, pairwise_namesBelow t _ p,
    fun names => mem_namesBelow_length hp, ?_⟩
  unfold walk
  rw [hl]
  exact walkFrom_eq hp fun names h => Nat.lt_succ_of_le h.length_le

end Steps

end Conformance.FileTree
