import Conformance.Json
import Mathlib.Tactic.SplitIfs

/-!
# What a document means

A `Datum` is a document whose objects are maps from keys to values, and `Json.datum` is the datum
that a tree writes down, in which the last member with a key counts. A normal form has the datum of
its tree (`datum_normal`), and normal forms with one datum are one tree (`eq_of_datum_eq`), so trees
agree exactly when they have the same datum (`agrees_iff_datum`).
-/

namespace Conformance

/-- A document as data: an object is the map that gives a key its value, if it has one. -/
inductive Datum where
  | null
  | bool (b : Bool)
  | int (n : Int)
  | double (bits : UInt64)
  | string (s : String)
  | array (items : List Datum)
  | object (value : String → Option Datum)

namespace Json

mutual

/-- The datum of a tree. -/
def datum : Json → Datum
  | .null => .null
  | .bool b => .bool b
  | .int n => .int n
  | .double bits => .double bits
  | .string s => .string s
  | .array items => .array (itemData items)
  | .object members => .object (memberDatum members)

/-- The data of items, in order. -/
def itemData : List Json → List Datum
  | [] => []
  | v :: rest => datum v :: itemData rest

/-- The datum of the last member with a key. -/
def memberDatum : List (String × Json) → String → Option Datum
  | [], _ => none
  | (j, v) :: rest, k => (memberDatum rest k).or (if j = k then some (datum v) else none)

end

section Normal

/-- A new member stands before all others, since the last member with a key counts. -/
theorem memberDatum_insertNew (k : String) (v : Json) : ∀ (members : List (String × Json))
    (i : String), memberDatum (insertNew k v members) i = memberDatum ((k, v) :: members) i
  | [], _ => rfl
  | (j, w) :: rest, i => by
    unfold insertNew
    split_ifs with hlt heq
    · rfl
    · -- the new member is left out, and the one that is there counts
      subst heq
      by_cases hi : k = i <;> simp [memberDatum, hi]
    · have ih := memberDatum_insertNew k v rest i
      simp only [memberDatum] at ih ⊢
      rw [ih]
      by_cases hi : k = i
      · subst hi
        simp [Ne.symm heq]
      · simp [hi]

mutual

/-- The normal form of a tree has its datum. -/
theorem datum_normal : ∀ v : Json, v.normal.datum = v.datum
  | .null | .bool _ | .int _ | .double _ | .string _ => rfl
  | .array items => by simp only [normal, datum, itemData_normalItems items]
  | .object members => by
    simp only [normal, datum]
    rw [funext (memberDatum_normalMembers members)]

theorem itemData_normalItems : ∀ items : List Json,
    itemData (normalItems items) = itemData items
  | [] => rfl
  | v :: rest => by
    simp only [normalItems, itemData, datum_normal v, itemData_normalItems rest]

theorem memberDatum_normalMembers : ∀ (members : List (String × Json)) (k : String),
    memberDatum (normalMembers members) k = memberDatum members k
  | [], _ => rfl
  | (j, v) :: rest, k => by
    simp only [normalMembers, memberDatum_insertNew, memberDatum, datum_normal v,
      memberDatum_normalMembers rest k]

end

end Normal

section Rising

mutual

/-- In every object of the tree the keys rise. -/
def Rising : Json → Prop
  | .array items => RisingItems items
  | .object members => RisingMembers members
  | .null | .bool _ | .int _ | .double _ | .string _ => True

/-- All items are rising. -/
def RisingItems : List Json → Prop
  | [] => True
  | v :: rest => Rising v ∧ RisingItems rest

/-- The members rise by key, and their values are rising. -/
def RisingMembers : List (String × Json) → Prop
  | [] => True
  | (k, v) :: rest => (∀ m ∈ rest, k < m.1) ∧ Rising v ∧ RisingMembers rest

end

theorem mem_insertNew {k : String} {v : Json} {m : String × Json} :
    ∀ {members : List (String × Json)}, m ∈ insertNew k v members → m = (k, v) ∨ m ∈ members
  | [], h => by simpa [insertNew] using h
  | (j, w) :: rest, h => by
    unfold insertNew at h
    split_ifs at h with hlt heq
    · exact List.mem_cons.1 h
    · exact .inr h
    · rcases List.mem_cons.1 h with rfl | h
      · exact .inr List.mem_cons_self
      · exact (mem_insertNew h).imp_right (List.mem_cons_of_mem _)

theorem risingMembers_insertNew {k : String} {v : Json} (hv : v.Rising) :
    ∀ {members : List (String × Json)}, RisingMembers members →
      RisingMembers (insertNew k v members)
  | [], _ => ⟨by simp, hv, trivial⟩
  | (j, w) :: rest, h => by
    obtain ⟨hj, hw, hrest⟩ := h
    unfold insertNew
    split_ifs with hlt heq
    · refine ⟨fun m hm => ?_, hv, hj, hw, hrest⟩
      rcases List.mem_cons.1 hm with rfl | hm
      · exact hlt
      · exact String.lt_trans hlt (hj m hm)
    · exact ⟨hj, hw, hrest⟩
    · refine ⟨fun m hm => ?_, hw, risingMembers_insertNew hv hrest⟩
      rcases mem_insertNew hm with rfl | hm
      · exact Std.lt_of_le_of_ne (String.not_lt.1 hlt) (Ne.symm heq)
      · exact hj m hm

mutual

theorem rising_normal : ∀ v : Json, v.normal.Rising
  | .null | .bool _ | .int _ | .double _ | .string _ => trivial
  | .array items => risingItems_normalItems items
  | .object members => risingMembers_normalMembers members

theorem risingItems_normalItems : ∀ items : List Json, RisingItems (normalItems items)
  | [] => trivial
  | v :: rest => ⟨rising_normal v, risingItems_normalItems rest⟩

theorem risingMembers_normalMembers : ∀ members : List (String × Json),
    RisingMembers (normalMembers members)
  | [] => trivial
  | (_, v) :: rest => risingMembers_insertNew (rising_normal v) (risingMembers_normalMembers rest)

end

/-- A key below all keys of the members has no value there. -/
theorem memberDatum_eq_none {k : String} : ∀ {members : List (String × Json)},
    (∀ m ∈ members, k < m.1) → memberDatum members k = none
  | [], _ => rfl
  | (j, v) :: rest, h => by
    have hj : j ≠ k := fun e => String.lt_irrefl k (e ▸ h (j, v) List.mem_cons_self)
    simp only [memberDatum, memberDatum_eq_none fun m hm => h m (List.mem_cons_of_mem _ hm),
      if_neg hj, Option.or_none]

/-- The first key of rising members has the value of the first member. -/
theorem memberDatum_head {k : String} {v : Json} {rest : List (String × Json)}
    (h : ∀ m ∈ rest, k < m.1) : memberDatum ((k, v) :: rest) k = some v.datum := by
  simp [memberDatum, memberDatum_eq_none h]

/-- Of two lists of rising members with the same values, the one does not start below the other. -/
theorem not_lt_of_memberDatum_eq {j k : String} {a b : Json} {as bs : List (String × Json)}
    (ha : ∀ m ∈ as, j < m.1) (hb : ∀ m ∈ bs, k < m.1)
    (h : memberDatum ((j, a) :: as) = memberDatum ((k, b) :: bs)) : ¬ j < k := by
  intro hlt
  have hnone : memberDatum ((k, b) :: bs) j = none := by
    refine memberDatum_eq_none fun m hm => ?_
    rcases List.mem_cons.1 hm with rfl | hm
    · exact hlt
    · exact String.lt_trans hlt (hb m hm)
  rw [← h, memberDatum_head ha] at hnone
  exact absurd hnone (by simp)

mutual

/-- A datum is that of one rising tree only. -/
theorem eq_of_datum_eq : ∀ {v w : Json}, v.Rising → w.Rising → v.datum = w.datum → v = w
  | .null, w, _, _, h => by cases w <;> simp_all [datum]
  | .bool _, w, _, _, h => by cases w <;> simp_all [datum]
  | .int _, w, _, _, h => by cases w <;> simp_all [datum]
  | .double _, w, _, _, h => by cases w <;> simp_all [datum]
  | .string _, w, _, _, h => by cases w <;> simp_all [datum]
  | .array as, w, hv, hw, h => by
    cases w with
    | array bs => exact congrArg array (eq_of_itemData_eq hv hw (by simpa [datum] using h))
    | _ => simp [datum] at h
  | .object as, w, hv, hw, h => by
    cases w with
    | object bs => exact congrArg object (eq_of_memberDatum_eq hv hw (by simpa [datum] using h))
    | _ => simp [datum] at h

theorem eq_of_itemData_eq : ∀ {as bs : List Json}, RisingItems as → RisingItems bs →
    itemData as = itemData bs → as = bs
  | [], [], _, _, _ => rfl
  | [], _ :: _, _, _, h => by simp [itemData] at h
  | _ :: _, [], _, _, h => by simp [itemData] at h
  | a :: as, b :: bs, ha, hb, h => by
    simp only [itemData, List.cons.injEq] at h
    rw [eq_of_datum_eq ha.1 hb.1 h.1, eq_of_itemData_eq ha.2 hb.2 h.2]

theorem eq_of_memberDatum_eq : ∀ {as bs : List (String × Json)}, RisingMembers as →
    RisingMembers bs → memberDatum as = memberDatum bs → as = bs
  | [], [], _, _, _ => rfl
  | [], (k, b) :: bs, _, hb, h => by
    have hk := memberDatum_head (v := b) hb.1
    rw [← h] at hk
    exact absurd hk (by simp [memberDatum])
  | (j, a) :: as, [], ha, _, h => by
    have hj := memberDatum_head (v := a) ha.1
    rw [h] at hj
    exact absurd hj (by simp [memberDatum])
  | (j, a) :: as, (k, b) :: bs, ha, hb, h => by
    obtain ⟨hja, hva, hra⟩ := ha
    obtain ⟨hkb, hvb, hrb⟩ := hb
    have hjk : j = k := Std.le_antisymm
      (String.not_lt.1 (not_lt_of_memberDatum_eq hkb hja h.symm))
      (String.not_lt.1 (not_lt_of_memberDatum_eq hja hkb h))
    subst hjk
    have hval : a.datum = b.datum := by
      have hj := congrFun h j
      rw [memberDatum_head hja, memberDatum_head hkb] at hj
      exact Option.some.inj hj
    have hrest : memberDatum as = memberDatum bs := by
      funext i
      by_cases hi : j = i
      · subst hi
        rw [memberDatum_eq_none hja, memberDatum_eq_none hkb]
      · simpa [memberDatum, hi] using congrFun h i
    rw [eq_of_datum_eq hva hvb hval, eq_of_memberDatum_eq hra hrb hrest]

end

end Rising

/-- Trees agree exactly when they write down the same data. -/
theorem agrees_iff_datum (v w : Json) : v.Agrees w ↔ v.datum = w.datum := by
  constructor
  · intro h
    rw [← datum_normal v, ← datum_normal w, show v.normal = w.normal from h]
  · intro h
    refine eq_of_datum_eq (rising_normal v) (rising_normal w) ?_
    rw [datum_normal, datum_normal, h]

end Json

end Conformance
