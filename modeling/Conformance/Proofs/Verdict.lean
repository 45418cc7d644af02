import Conformance.Proofs.Json.Continued
import Conformance.Proofs.Json.Rendering
import Conformance.Verdict

/-!
# Verdicts on JSON

As JSON, a response passes exactly when it means the same as the expected one, however the two are
written down (`compare_renders`). A response in brackets of which the end is missing never passes
(`compare_truncated`).
-/

namespace Conformance.MatchMode

open Json

/-- Renderings of two trees compare as equal exactly when the trees have the same datum, and as
different otherwise. -/
theorem compare_renders {v w : Json} {observed expected : String} (hv : v.depth ≤ 127)
    (hw : w.depth ≤ 127) (hs : Renders v observed) (ht : Renders w expected) :
    ((MatchMode.json.compare observed expected).status = .pass ↔ v.datum = w.datum)
      ∧ (v.datum ≠ w.datum → (MatchMode.json.compare observed expected).status = .fail
        ∧ (MatchMode.json.compare observed expected).message
          = "Output response is different from expected one") := by
  obtain ⟨v', hobserved, hv'⟩ := hs.read hv
  obtain ⟨w', hexpected, hw'⟩ := ht.read hw
  have hverdict : MatchMode.json.compare observed expected
      = .ofEqual (decide (v'.Agrees w')) := by
    simp only [MatchMode.compare, hobserved, hexpected]
  have hagrees : v'.Agrees w' ↔ v.datum = w.datum := by
    rw [agrees_iff_datum, hv', hw']
  rw [hverdict]
  by_cases h : v.datum = w.datum
  · rw [decide_eq_true (hagrees.2 h)]
    exact ⟨iff_of_true rfl h, fun hne => absurd h hne⟩
  · rw [decide_eq_false (mt hagrees.1 h)]
    exact ⟨iff_of_false (by decide) h, fun _ => ⟨rfl, rfl⟩⟩

/-- Members in another order, a key twice, a blank and a pair of escapes make no difference, but two
items in another order do. -/
theorem compare_renders_swapped :
    let v : Json := .object [("a", .int 1), ("b", .array [.bool true, .string "😀"]), ("a", .null)]
    let w : Json := .object [("a", .null), ("b", .array [.bool true, .string "😀"])]
    let u : Json := .object [("a", .null), ("b", .array [.string "😀", .bool true])]
    let s := "\x7b\"b\":[ true,\"\\uD83D\\ude00\"],\"a\":1,\"a\":null\x7d"
    let t := "\x7b\"a\":null,\"b\":[true,\"😀\"]\x7d"
    let r := "\x7b\"a\":null,\"b\":[\"😀\",true]\x7d"
    v.depth ≤ 127 ∧ w.depth ≤ 127 ∧ u.depth ≤ 127 ∧ Renders v s ∧ Renders w t ∧ Renders u r
      ∧ v.datum = w.datum ∧ (MatchMode.json.compare s t).status = .pass
      ∧ v.datum ≠ u.datum ∧ (MatchMode.json.compare s r).status = .fail := by
  intro v w u s t r
  have hv : v.depth ≤ 127 := by decide
  have hw : w.depth ≤ 127 := by decide
  have hu : u.depth ≤ 127 := by decide
  have plain (c : Char) (h : c ≠ '"' ∧ c ≠ '\\' ∧ 0x20 ≤ c.toNat) : CharsText [c] [c] :=
    .cons (.plain h.1 h.2.1 h.2.2) .nil
  have ha := @StringText.quoted "a" ['a'] (plain 'a' (by decide))
  have hb := @StringText.quoted "b" ['b'] (plain 'b' (by decide))
  have hface := @StringText.quoted "😀" ['😀'] (plain '😀' (by decide))
  have hhigh : UnitText 0xD83D ['D', '8', '3', 'D'] :=
    @UnitText.digits 13 8 3 13 _ _ _ _ ⟨by decide, .inr rfl⟩ ⟨by decide, .inl rfl⟩
      ⟨by decide, .inl rfl⟩ ⟨by decide, .inr rfl⟩
  have hlow : UnitText 0xDE00 ['d', 'e', '0', '0'] :=
    @UnitText.digits 13 14 0 0 _ _ _ _ ⟨by decide, .inl rfl⟩ ⟨by decide, .inl rfl⟩
      ⟨by decide, .inl rfl⟩ ⟨by decide, .inl rfl⟩
  have hpair := @StringText.quoted "😀" _
    (@CharsText.cons '😀' [] _ _ (.pair (by decide) hhigh hlow) .nil)
  have htrue : Padded (.bool true) (' ' :: "true".toList) :=
    @Padded.blanks _ [' '] _ [] (by simp [Blank]) (.bool true) blank_nil
  have hint : Writes (.int 1) ['1'] :=
    (show (toString (1 : Int)).toList = ['1'] by decide) ▸ .int (by decide) (by decide)
  have key {k : String} {x : Json} {p q : List Char} (hk : StringText k p) (hx : Writes x q) :
      MemberText (k, x) (p ++ ':' :: q) := .colon blank_nil hk blank_nil hx.bare
  have hs : Renders v s := by
    refine ⟨_, .single (@Swap.here [] [("a", .null)] _ _ _ _ (by decide)), ?_⟩
    convert (Writes.object (.cons (key hb (.array (.cons htrue (.one (Writes.string hpair).bare))))
      (.cons (key ha hint) (.one (key ha .null))))).bare using 1
    · rfl
    · decide +kernel
  have ht : Renders w t := by
    refine ⟨w, .refl, ?_⟩
    convert (Writes.object (.cons (key ha .null) (.one (key hb (.array
      (.cons (Writes.bool true).bare (.one (Writes.string hface).bare))))))).bare using 1
    decide +kernel
  have hr : Renders u r := by
    refine ⟨u, .refl, ?_⟩
    convert (Writes.object (.cons (key ha .null) (.one (key hb (.array
      (.cons (Writes.string hface).bare (.one (Writes.bool true).bare))))))).bare using 1
    decide +kernel
  have heq : v.datum = w.datum := (agrees_iff_datum v w).1 (by decide)
  have hne : v.datum ≠ u.datum := fun h => absurd ((agrees_iff_datum v u).2 h) (by decide)
  exact ⟨hv, hw, hu, hs, ht, hr, heq, (compare_renders hv hw hs ht).1.2 heq, hne,
    ((compare_renders hv hu hs hr).2 hne).1⟩

/-- A document in brackets that is cut off in front of a closing bracket, its last one or one
before, does not pass, whatever is expected; and if a document is expected, the message says that
the response is none. -/
theorem compare_truncated {document observed : String} {v : Json} {a q rest : List Char} {c : Char}
    (hread : read document = .ok v) (hopen : document.toList = a ++ c :: q) (ha : Blank a)
    (hc : c = '[' ∨ c = '\x7b') (hcut : document.toList = observed.toList ++ rest)
    (hclose : ∃ d ∈ rest, d = ']' ∨ d = '\x7d') (expected : String) :
    (MatchMode.json.compare observed expected).status = .fail
      ∧ ∀ w, read expected = .ok w → (MatchMode.json.compare observed expected).message
        = "Output response is different from expected one (not valid JSON)" := by
  obtain ⟨f, hobserved⟩ := read_truncated hread hopen ha hc hcut hclose
  rcases hexpected : read expected with e | w
  · have hverdict : MatchMode.json.compare observed expected
        = .expectedNotJson (e.message expected) := by
      simp only [MatchMode.compare, hexpected]
    rw [hverdict]
    exact ⟨rfl, nofun⟩
  · have hverdict : MatchMode.json.compare observed expected = .responseNotJson := by
      simp only [MatchMode.compare, hexpected, hobserved]
    rw [hverdict]
    exact ⟨rfl, fun _ _ => rfl⟩

/-- A cut inside a string that holds both closing brackets. -/
theorem compare_truncated_string :
    let document := " \x7b\"a\":[1e3,\"]\x7d\"]\x7d\n"
    let observed := " \x7b\"a\":[1e3,\"]\x7d"
    (∃ v, read document = .ok v) ∧ observed.toList <+: document.toList
      ∧ (MatchMode.json.compare observed "\x7b\x7d").message
        = "Output response is different from expected one (not valid JSON)"
      ∧ (MatchMode.json.compare observed observed).status = .fail := by
  intro document observed
  have hread : (read document).toOption.isSome = true := by decide +kernel
  have hopen : document.toList = [' '] ++ '\x7b' :: document.toList.drop 2 := by decide +kernel
  have hcut : document.toList = observed.toList ++ "\"]\x7d\n".toList := by decide +kernel
  obtain ⟨v, hread⟩ : ∃ v, read document = .ok v := by
    rcases h : read document with e | v
    · rw [h] at hread
      cases hread
    · exact ⟨v, rfl⟩
  have hexpected : read "\x7b\x7d" = .ok (.object []) := by decide +kernel
  have hblank : Blank [' '] := by simp [Blank]
  have hresult := compare_truncated hread hopen hblank (.inr rfl) hcut ⟨']', by decide, .inl rfl⟩
  exact ⟨⟨v, hread⟩, ⟨_, hcut.symm⟩, (hresult "\x7b\x7d").2 _ hexpected, (hresult observed).1⟩

end Conformance.MatchMode
