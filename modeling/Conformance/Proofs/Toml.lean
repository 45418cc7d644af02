import Conformance.Proofs.Except
import Conformance.Toml.Reader
import Mathlib.Data.List.Nodup

/-!
# One entry for each name

No two entries of a document have one name (`Toml.distinct_read`): what a line adds is behind all
entries if its name is new, and in the place of the entry with its name otherwise. So the entries
can be looked up in any order.
-/

namespace Conformance.Toml

/-- No two entries have one name. -/
def Entries.Distinct (es : Entries) : Prop := (es.map Prod.fst).Nodup

section Changes

variable {es es' : Entries} {name : String} {place : Place} {v : Value}

theorem Entries.find?_eq_none_iff : es.find? name = none ↔ name ∉ es.map Prod.fst := by
  simp only [Entries.find?, Option.map_eq_none_iff, List.find?_eq_none, beq_iff_eq, List.mem_map,
    not_exists, not_and]

namespace Entries.Distinct

theorem nil : Distinct [] := List.nodup_nil

theorem append (h : es.Distinct) (hnone : es.find? name = none) :
    Distinct (es ++ [(name, place, v)]) := by
  have hnew : name ∉ es.map Prod.fst := Entries.find?_eq_none_iff.1 hnone
  unfold Distinct
  rw [List.map_append, List.map_singleton, List.nodup_append]
  refine ⟨h, List.nodup_singleton _, fun a ha b hb => ?_⟩
  rw [List.mem_singleton.1 hb]
  rintro rfl
  exact hnew ha

theorem put (h : es.Distinct) : (es.put name place v).Distinct := by
  unfold Entries.put
  split
  next =>
    have hnames : ∀ e : String × Place × Value,
        (if e.1 == name then (name, place, v) else e).1 = e.1 := by
      intro e
      by_cases he : e.1 = name
      · simp [he]
      · simp [he]
    unfold Distinct
    rw [List.map_map]
    simp only [Function.comp_def, hnames]
    exact h
  next hany =>
    refine append h ?_
    rw [Entries.find?_eq_none_iff, List.mem_map]
    rintro ⟨e, he, rfl⟩
    exact hany (List.any_eq_true.2 ⟨e, he, beq_self_eq_true _⟩)

theorem filter (h : es.Distinct) (p : String × Place × Value → Bool) : Distinct (es.filter p) :=
  List.Nodup.sublist (List.filter_sublist.map Prod.fst) h

end Entries.Distinct

open Entries (Distinct)

theorem distinct_insertDotted {wrap : Origin → Entries → Value}
    {unwrap : Value → Option (Origin × Entries)} {value : Nat} {key : List KeyPart}
    (h : es.Distinct) (hins : insertDotted wrap unwrap value v key es = some es') :
    es'.Distinct := by
  unfold insertDotted at hins
  split at hins
  · cases hins
  · split at hins
    · cases hins
    next hnone =>
      cases hins
      exact h.append (Option.not_isSome_iff_eq_none.1 hnone)
  · split at hins
    next hnone =>
      obtain ⟨inner, -, hins⟩ := Option.bind_eq_some_iff.1 hins
      cases hins
      exact h.append hnone
    next =>
      split at hins
      · cases hins
      obtain ⟨inner, -, hins⟩ := Option.bind_eq_some_iff.1 hins
      cases hins
      exact h.put
    next =>
      obtain ⟨⟨o, inner⟩, -, hins⟩ := Option.bind_eq_some_iff.1 hins
      simp only at hins
      split at hins
      · cases hins
      obtain ⟨inner, -, hins⟩ := Option.bind_eq_some_iff.1 hins
      cases hins
      exact h.put

/-- A change of the entries in front of the last part keeps the names apart if it does so there. -/
theorem distinct_descend {change : KeyPart → Entries → Option Entries}
    (hchange : ∀ {part es es'}, Distinct es → change part es = some es' → Distinct es')
    {key : List KeyPart} (h : es.Distinct) (hdesc : descend change key es = some es') :
    es'.Distinct := by
  unfold descend at hdesc
  split at hdesc
  · cases hdesc
  · exact hchange h hdesc
  · split at hdesc
    next hnone =>
      obtain ⟨inner, -, hdesc⟩ := Option.bind_eq_some_iff.1 hdesc
      cases hdesc
      exact h.append hnone
    next =>
      obtain ⟨inner, -, hdesc⟩ := Option.bind_eq_some_iff.1 hdesc
      cases hdesc
      exact h.put
    next =>
      obtain ⟨inner, -, hdesc⟩ := Option.bind_eq_some_iff.1 hdesc
      cases hdesc
      exact h.put
    · cases hdesc

end Changes

section Drafts

/-- The names of the root are distinct, and so are those of the present table if that is the root.
-/
structure Draft.Sound (d : Draft) : Prop where
  root : d.root.Distinct
  current : d.header = [] → d.current.Distinct

variable {d d' : Draft} {es : Entries} {header : List KeyPart} {place : Nat}

theorem Draft.Sound.close (h : d.Sound) (hclose : d.close = some es) : es.Distinct := by
  unfold Draft.close at hclose
  split at hclose
  next hroot =>
    cases hclose
    exact h.current (List.isEmpty_iff.1 hroot)
  split at hclose
  all_goals
    refine distinct_descend (fun hes hchange => ?_) h.root hclose
    simp only at hchange
    split at hchange
    next hnone =>
      cases hchange
      exact hes.append hnone
    next =>
      cases hchange
      exact hes.put
    next => cases hchange

theorem Draft.Sound.openTable (h : d.Sound) (hopen : d.openTable header place = some d') :
    d'.Sound := by
  obtain ⟨root, hroot, hopen⟩ := Option.bind_eq_some_iff.1 hopen
  obtain ⟨current, hlook, hopen⟩ := Option.bind_eq_some_iff.1 hopen
  obtain ⟨root', hroot', hopen⟩ := Option.bind_eq_some_iff.1 hopen
  cases hopen
  refine ⟨distinct_descend (fun hes hchange => ?_) (h.close hroot) hroot', fun hnil => ?_⟩
  · cases hchange
    exact hes.filter _
  · cases hnil
    cases hlook

theorem Draft.Sound.openTables (h : d.Sound) (hopen : d.openTables header place = some d') :
    d'.Sound := by
  obtain ⟨root, hroot, hopen⟩ := Option.bind_eq_some_iff.1 hopen
  obtain ⟨root', hroot', hopen⟩ := Option.bind_eq_some_iff.1 hopen
  cases hopen
  refine ⟨distinct_descend (fun hes hchange => ?_) (h.close hroot) hroot', fun _ => .nil⟩
  simp only at hchange
  split at hchange
  next hnone =>
    cases hchange
    exact hes.append hnone
  next =>
    cases hchange
    exact hes
  next => cases hchange

theorem Draft.Sound.readHeader {total : Nat} {s rest : List Char} (h : d.Sound)
    (hread : readHeader total d s = .ok (d', rest)) : d'.Sound := by
  unfold Toml.readHeader at hread
  dsimp only at hread
  split at hread
  · obtain ⟨⟨key, left⟩, -, hread⟩ := bind_eq_ok_iff.1 hread
    dsimp only at hread
    split at hread
    · obtain ⟨opened, ⟨⟩, hread⟩ := bind_eq_ok_iff.1 hread
      obtain ⟨behind, -, hread⟩ := bind_eq_ok_iff.1 hread
      split at hread
      next hopened =>
        cases hread
        exact h.openTables hopened
      next => cases hread
    · cases hread
  · obtain ⟨⟨key, left⟩, -, hread⟩ := bind_eq_ok_iff.1 hread
    obtain ⟨left', -, hread⟩ := bind_eq_ok_iff.1 hread
    obtain ⟨opened, ⟨⟩, hread⟩ := bind_eq_ok_iff.1 hread
    obtain ⟨behind, -, hread⟩ := bind_eq_ok_iff.1 hread
    split at hread
    next hopened =>
      cases hread
      exact h.openTable hopened
    next => cases hread

/-- No line gives the root a second entry with a name. -/
theorem Draft.Sound.readLines {total : Nat} : ∀ {fuel : Nat} {d d' : Draft} {s : List Char},
    d.Sound → readLines total fuel d s = .ok d' → d'.Sound
  | 0, d, d', s, h, hread => by
    cases hread
    exact h
  | fuel + 1, d, d', s, h, hread => by
    unfold Toml.readLines at hread
    dsimp only at hread
    split at hread
    · cases hread
      exact h
    · cases hread
    · obtain ⟨⟨d₁, rest⟩, hheader, hread⟩ := bind_eq_ok_iff.1 hread
      exact readLines (h.readHeader hheader) hread
    · split at hread
      · obtain ⟨rest, -, hread⟩ := bind_eq_ok_iff.1 hread
        exact readLines h hread
      obtain ⟨⟨key, rest⟩, -, hread⟩ := bind_eq_ok_iff.1 hread
      obtain ⟨start, -, hread⟩ := bind_eq_ok_iff.1 hread
      obtain ⟨⟨v, behind⟩, -, hread⟩ := bind_eq_ok_iff.1 hread
      obtain ⟨rest', -, hread⟩ := bind_eq_ok_iff.1 hread
      simp only at hread
      split at hread
      next es hes =>
        have hsound : Sound { d with current := es } :=
          ⟨h.root, fun hroot => distinct_insertDotted (h.current hroot) hes⟩
        exact readLines hsound hread
      next => cases hread

end Drafts

theorem distinct_read {text : String} {es : Entries} (h : read text = .ok es) : es.Distinct := by
  unfold read at h
  obtain ⟨d, hlines, h⟩ := bind_eq_ok_iff.1 h
  have hsound : d.Sound := Draft.Sound.readLines ⟨.nil, fun _ => .nil⟩ hlines
  split at h
  next hclose =>
    cases h
    exact hsound.close hclose
  next => cases h

end Conformance.Toml
