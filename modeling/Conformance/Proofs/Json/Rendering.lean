import Conformance.Proofs.Json.Meaning
import Conformance.Proofs.Json.Reader
import Mathlib.Logic.Relation

/-!
# Members in another order

A text that renders a tree may also list its members in another order, as long as those with one key
keep theirs. A change of places leaves the datum and the depth of the tree as they are
(`Swap.datum_eq`, `Swap.depth_eq`), so the text reads as a tree with the same datum
(`Renders.read`).
-/

namespace Conformance.Json

/-- Somewhere in the tree two neighbours among the members change places, under different keys. -/
inductive Swap : Json → Json → Prop
  | here {before after : List (String × Json)} {j k : String} {v w : Json} (h : j ≠ k) :
      Swap (.object (before ++ (j, v) :: (k, w) :: after))
        (.object (before ++ (k, w) :: (j, v) :: after))
  | item {before after : List Json} {v w : Json} (h : Swap v w) :
      Swap (.array (before ++ v :: after)) (.array (before ++ w :: after))
  | member {before after : List (String × Json)} {k : String} {v w : Json} (h : Swap v w) :
      Swap (.object (before ++ (k, v) :: after)) (.object (before ++ (k, w) :: after))

/-- The text writes the tree, up to the order of members with different keys. -/
def Renders (v : Json) (text : String) : Prop :=
  ∃ w, Relation.ReflTransGen Swap v w ∧ Padded w text.toList

section Appending

theorem itemData_append (as bs : List Json) :
    itemData (as ++ bs) = itemData as ++ itemData bs := by
  induction as with
  | nil => rfl
  | cons a as ih => simp only [List.cons_append, itemData, ih]

theorem memberDatum_append (k : String) (as bs : List (String × Json)) :
    memberDatum (as ++ bs) k = (memberDatum bs k).or (memberDatum as k) := by
  induction as with
  | nil => rw [List.nil_append, memberDatum, Option.or_none]
  | cons m as ih => simp only [List.cons_append, memberDatum, ih, Option.or_assoc]

theorem depthItems_append (as bs : List Json) :
    depthItems (as ++ bs) = max (depthItems as) (depthItems bs) := by
  induction as with
  | nil => rw [List.nil_append, depthItems, Nat.zero_max]
  | cons a as ih => simp only [List.cons_append, depthItems, ih, Nat.max_assoc]

theorem depthMembers_append (as bs : List (String × Json)) :
    depthMembers (as ++ bs) = max (depthMembers as) (depthMembers bs) := by
  induction as with
  | nil => rw [List.nil_append, depthMembers, Nat.zero_max]
  | cons m as ih => simp only [List.cons_append, depthMembers, ih, Nat.max_assoc]

end Appending

section Swaps

variable {v w : Json}

/-- A change of places under different keys leaves the datum as it is. -/
theorem Swap.datum_eq (h : Swap v w) : v.datum = w.datum := by
  induction h with
  | @here before after j k v w hjk =>
    refine congrArg Datum.object (funext fun i => ?_)
    simp only [memberDatum_append, memberDatum]
    -- at most one of the two members has the key
    by_cases hj : j = i
    · have hk : k ≠ i := fun hk => hjk (hj.trans hk.symm)
      simp only [if_neg hk, Option.or_none]
    · simp only [if_neg hj, Option.or_none]
  | item h ih => simp only [datum, itemData_append, itemData, ih]
  | member h ih =>
    refine congrArg Datum.object (funext fun i => ?_)
    simp only [memberDatum_append, memberDatum, ih]

theorem Swap.depth_eq (h : Swap v w) : v.depth = w.depth := by
  induction h with
  | here h => simp only [depth, depthMembers_append, depthMembers, Nat.max_left_comm]
  | item h ih => simp only [depth, depthItems_append, depthItems, ih]
  | member h ih => simp only [depth, depthMembers_append, depthMembers, ih]

theorem datum_eq_of_swaps (h : Relation.ReflTransGen Swap v w) : v.datum = w.datum := by
  induction h with
  | refl => rfl
  | tail _ hswap ih => exact ih.trans hswap.datum_eq

theorem depth_eq_of_swaps (h : Relation.ReflTransGen Swap v w) : v.depth = w.depth := by
  induction h with
  | refl => rfl
  | tail _ hswap ih => exact ih.trans hswap.depth_eq

/-- A text that renders a tree reads as a tree with its datum. -/
theorem Renders.read {text : String} (h : Renders v text) (hd : v.depth ≤ 127) :
    ∃ w, Json.read text = .ok w ∧ w.datum = v.datum := by
  obtain ⟨w, hswaps, hw⟩ := h
  refine ⟨w, read_padded ?_ hw, (datum_eq_of_swaps hswaps).symm⟩
  rw [← depth_eq_of_swaps hswaps]
  exact hd

end Swaps

end Conformance.Json
