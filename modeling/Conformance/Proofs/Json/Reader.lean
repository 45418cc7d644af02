import Conformance.Json.Reader
import Conformance.Proofs.Except
import Conformance.Proofs.Json.Number
import Conformance.Proofs.Json.Text

/-!
# Reading what a text writes

The reader accepts every text of the grammar and answers the tree that the text writes
(`read_padded`). What one turn of the loops over items and members does is said once
(`moreItems_eq_ok_iff`, `moreMembers_eq_ok_iff`), and the loops are settled for any reader of values
that reads what they contain (`readItems_text`, `readMembers_text`); the induction is then on the
depth that `readValue` allows.
-/

namespace Conformance.Json

section Blanks

variable {a rest : List Char} {c : Char}

theorem isSpace_of_mem (h : c ∈ [' ', '\t', '\n', '\r']) : isSpace c = true := by
  simp only [List.mem_cons, List.not_mem_nil, or_false] at h
  rcases h with rfl | rfl | rfl | rfl <;> rfl

theorem skipSpace_blank (ha : Blank a) : skipSpace (a ++ rest) = skipSpace rest :=
  List.dropWhile_append_of_pos fun c hc => isSpace_of_mem (ha c hc)

theorem skipSpace_cons (hc : isSpace c = false) : skipSpace (c :: rest) = c :: rest := by
  rw [skipSpace, List.dropWhile_cons, if_neg (by simp [hc])]

theorem skipSpace_blank_cons (ha : Blank a) (hc : isSpace c = false) :
    skipSpace (a ++ c :: rest) = c :: rest := by
  rw [skipSpace_blank ha, skipSpace_cons hc]

/-- Blanks may stand between a value and what follows it. -/
theorem Blank.follow (ha : Blank a) (h : Follow rest) : Follow (a ++ rest) := by
  rcases a with _ | ⟨d, a⟩
  · exact h
  · intro c hc
    rw [List.cons_append, List.head?_cons, Option.mem_some_iff] at hc
    subst hc
    have hd := ha d List.mem_cons_self
    simp only [List.mem_cons, List.not_mem_nil, or_false] at hd ⊢
    tauto

end Blanks

section Tokens

theorem toList_toString_nat (n : Nat) : (toString (n : Int)).toList = Nat.toDigits 10 n := by
  rw [Int.toString_eq_repr]
  simp [Int.repr]

theorem toList_toString_negSucc (n : Nat) :
    (toString (Int.negSucc n)).toList = '-' :: Nat.toDigits 10 (n + 1) := by
  rw [Int.toString_eq_repr]
  simp [Int.repr]

theorem ne_of_isDigit {c d : Char} (hc : c.isDigit = true) (hd : d.isDigit = false) : c ≠ d := by
  rintro rfl
  exact absurd (hc.symm.trans hd) (by decide)

theorem isSpace_of_isDigit {c : Char} (hc : c.isDigit = true) : isSpace c = false := by
  have hblank := ne_of_isDigit hc (show ' '.isDigit = false by decide)
  have htab := ne_of_isDigit hc (show '\t'.isDigit = false by decide)
  have hfeed := ne_of_isDigit hc (show '\n'.isDigit = false by decide)
  have hreturn := ne_of_isDigit hc (show '\r'.isDigit = false by decide)
  simp [isSpace, hblank, htab, hfeed, hreturn]

/-- A value does not begin with a blank or a bracket that closes. -/
theorem Writes.head {v : Json} {s : List Char} (h : Writes v s) :
    ∃ c t, s = c :: t ∧ isSpace c = false ∧ c ≠ ']' := by
  cases h with
  | null => exact ⟨_, _, rfl, by decide, by decide⟩
  | bool b => cases b <;> exact ⟨_, _, rfl, by decide, by decide⟩
  | @int n hlow hhigh =>
    cases n with
    | ofNat n =>
      obtain ⟨c, ds, hds, hc, -⟩ := toDigits_eq_cons n
      exact ⟨c, ds, (toList_toString_nat n).trans hds, isSpace_of_isDigit hc,
        ne_of_isDigit hc (by decide)⟩
    | negSucc n => exact ⟨_, _, toList_toString_negSucc n, by decide, by decide⟩
  | string h =>
    obtain ⟨t, rfl, -⟩ := readString_text h
    exact ⟨_, _, rfl, by decide, by decide⟩
  | emptyArray ha => exact ⟨_, _, rfl, by decide, by decide⟩
  | array h => exact ⟨_, _, rfl, by decide, by decide⟩
  | emptyObject ha => exact ⟨_, _, rfl, by decide, by decide⟩
  | object h => exact ⟨_, _, rfl, by decide, by decide⟩

end Tokens

/-- An element is read, and then what follows it. -/
theorem bind_cons_eq_ok_iff {α : Type} {first : Except Fault (α × List Char)}
    (others : List Char → Except Fault (List α × List Char)) {l : List α} {rest : List Char} :
    (do
      let (a, t) ← first
      let (as, t) ← others t
      .ok (a :: as, t)) = Except.ok (l, rest)
    ↔ ∃ a t as, first = .ok (a, t) ∧ others t = .ok (as, rest) ∧ a :: as = l := by
  rcases first with e | ⟨a, t⟩
  · simp
  rcases ht : others t with e | ⟨as, left⟩ <;> simp [ht, and_comm]

/-- The reader reads the value from all its texts, behind any blanks. -/
def Reads (item : Reader) (v : Json) : Prop :=
  ∀ {a s rest : List Char}, Blank a → Writes v s → Follow rest →
    item (a ++ (s ++ rest)) = .ok (v, rest)

section Items

variable {item : Reader} {v : Json} {items : List Json} {s t a rest : List Char}

/-- A padded value reads from its first token, and leaves the blanks behind it. -/
theorem Padded.read (hv : Reads item v) (h : Padded v s) (hrest : Follow rest) :
    ∃ c q b, skipSpace (s ++ rest) = c :: q ∧ c ≠ ']' ∧ Blank b
      ∧ item (c :: q) = .ok (v, b ++ rest) ∧ item (s ++ rest) = .ok (v, b ++ rest) := by
  obtain ⟨ha, hs, hb⟩ := h
  rename_i a s b
  obtain ⟨c, q, rfl, hc, hclose⟩ := hs.head
  have hfollow := hb.follow hrest
  refine ⟨c, q ++ (b ++ rest), b, ?_, hclose, hb, ?_, ?_⟩
  · rw [List.append_assoc, List.append_assoc, List.cons_append, skipSpace_blank_cons ha hc]
  · exact hv blank_nil hs hfollow
  · rw [List.append_assoc, List.append_assoc]
    exact hv ha hs hfollow

/-- The items of an array are none, or one and what is left of them. -/
theorem readItems_eq_ok_iff :
    readItems item s = .ok (items, rest) ↔
      (skipSpace s = ']' :: rest ∧ items = [])
      ∨ ∃ c q v t vs, skipSpace s = c :: q ∧ c ≠ ']' ∧ item (c :: q) = .ok (v, t)
        ∧ moreItems item (t.length + 1) t = .ok (vs, rest) ∧ v :: vs = items := by
  rw [readItems]
  rcases hs : skipSpace s with _ | ⟨c, q⟩
  · simp
  by_cases hclose : c = ']'
  · subst hclose
    simp [eq_comm, and_comm]
  · simp [hclose, bind_cons_eq_ok_iff fun t => moreItems item (t.length + 1) t]

/-- What is left of the items is none, or one behind a comma and what is left then. -/
theorem moreItems_eq_ok_iff {fuel : Nat} :
    moreItems item (fuel + 1) s = .ok (items, rest) ↔
      (skipSpace s = ']' :: rest ∧ items = [])
      ∨ ∃ r c q v t vs, skipSpace s = ',' :: r ∧ skipSpace r = c :: q ∧ c ≠ ']'
        ∧ item (c :: q) = .ok (v, t) ∧ moreItems item fuel t = .ok (vs, rest)
        ∧ v :: vs = items := by
  rw [moreItems]
  rcases hs : skipSpace s with _ | ⟨c, r⟩
  · simp
  by_cases hclose : c = ']'
  · subst hclose
    simp [eq_comm, and_comm]
  by_cases hcomma : c = ','
  · subst hcomma
    rcases hr : skipSpace r with _ | ⟨d, q⟩
    · simp [hr]
    by_cases hd : d = ']'
    · subst hd
      simp [hr]
    · simp [hr, hd, bind_cons_eq_ok_iff]
  · simp [hclose, hcomma]

theorem follow_comma : Follow (',' :: rest) := by simp [Follow]

theorem follow_bracket : Follow (']' :: rest) := by simp [Follow]

/-- The items behind a comma read up to the bracket. -/
theorem moreItems_text : ∀ {items : List Json} {t a : List Char} {fuel : Nat},
    ItemsText items t → (∀ v ∈ items, Reads item v) → Blank a → t.length + 1 < fuel →
      moreItems item fuel (a ++ ',' :: (t ++ ']' :: rest)) = .ok (items, rest)
  | _, _, _, 0, _, _, _, hf => absurd hf (by omega)
  | _, _, _, fuel + 1, .one h, hr, ha, hf => by
    obtain ⟨c, q, b, hs, hc, hb, hread, -⟩ := h.read (hr _ (by simp)) follow_bracket
    -- the bracket takes a turn of its own
    obtain ⟨fuel, rfl⟩ : ∃ f, fuel = f + 1 := ⟨fuel - 1, by omega⟩
    have hclose : skipSpace (b ++ ']' :: rest) = ']' :: rest := skipSpace_blank_cons hb (by decide)
    exact moreItems_eq_ok_iff.2 (.inr ⟨_, c, q, _, _, [], skipSpace_blank_cons ha (by decide), hs,
      hc, hread, moreItems_eq_ok_iff.2 (.inl ⟨hclose, rfl⟩), rfl⟩)
  | _, _, _, fuel + 1, .cons h hrest, hr, ha, hf => by
    rename_i v rest' s t
    obtain ⟨c, q, b, hs, hc, hb, hread, -⟩ := h.read (hr _ (by simp)) follow_comma
    have hlen : t.length + 1 < fuel := by
      simp only [List.length_append, List.length_cons] at hf
      omega
    rw [List.append_assoc, List.cons_append]
    exact moreItems_eq_ok_iff.2 (.inr ⟨_, c, q, v, _, rest', skipSpace_blank_cons ha (by decide),
      hs, hc, hread,
      moreItems_text hrest (fun w hw => hr w (List.mem_cons_of_mem _ hw)) hb hlen, rfl⟩)

/-- The items of an array read up to its bracket. -/
theorem readItems_text (h : ItemsText items t) (hr : ∀ v ∈ items, Reads item v) :
    readItems item (t ++ ']' :: rest) = .ok (items, rest) := by
  rcases h with h | ⟨h, hrest⟩
  · obtain ⟨c, q, b, hs, hc, hb, hread, -⟩ := h.read (hr _ (by simp)) follow_bracket
    have hclose : skipSpace (b ++ ']' :: rest) = ']' :: rest := skipSpace_blank_cons hb (by decide)
    exact readItems_eq_ok_iff.2 (.inr ⟨c, q, _, _, [], hs, hc, hread,
      moreItems_eq_ok_iff.2 (.inl ⟨hclose, rfl⟩), rfl⟩)
  · rename_i v rest' s t
    obtain ⟨c, q, b, hs, hc, hb, hread, -⟩ := h.read (hr _ (by simp)) follow_comma
    have hlen : t.length + 1 < (b ++ ',' :: (t ++ ']' :: rest)).length + 1 := by
      simp only [List.length_append, List.length_cons]
      omega
    rw [List.append_assoc, List.cons_append]
    exact readItems_eq_ok_iff.2 (.inr ⟨c, q, v, _, rest', hs, hc, hread,
      moreItems_text hrest (fun w hw => hr w (List.mem_cons_of_mem _ hw)) hb hlen, rfl⟩)

end Items

section Members

variable {item : Reader} {m : String × Json} {members : List (String × Json)}
  {s t a rest : List Char}

theorem readMember_eq_ok_iff :
    readMember item s = .ok (m, rest) ↔
      ∃ t q, readString s = .ok (m.1, t) ∧ skipSpace t = ':' :: q ∧ item q = .ok (m.2, rest) := by
  rw [readMember]
  rcases readString s with e | ⟨k, t⟩
  · simp
  simp only [ok_bind, Except.ok.injEq, Prod.mk.injEq]
  rcases ht : skipSpace t with _ | ⟨c, q⟩
  · simp [ht]
  by_cases hcolon : c = ':'
  · subst hcolon
    rcases hv : item q with e | ⟨v, left⟩
    · simp [ht, hv]
    · simp [ht, hv, Prod.ext_iff, and_assoc]
  · simp [ht, hcolon]

/-- A member reads from behind the quote of its key, and leaves the blanks behind it. -/
theorem MemberText.read (hv : Reads item m.2) (h : MemberText m s) (hrest : Follow rest) :
    ∃ q b, skipSpace (s ++ rest) = '"' :: q ∧ Blank b
      ∧ readMember item q = .ok (m, b ++ rest) := by
  obtain ⟨ha, hk, hb, hp⟩ := h
  rename_i k v a s b t
  obtain ⟨q, rfl, hkey⟩ := readString_text hk
  obtain ⟨-, -, d, -, -, hd, -, hread⟩ := hp.read hv hrest
  refine ⟨q ++ (b ++ ':' :: (t ++ rest)), d, ?_, hd, ?_⟩
  · simp only [List.append_assoc, List.cons_append]
    rw [skipSpace_blank_cons ha (by decide)]
  · exact readMember_eq_ok_iff.2 ⟨_, _, hkey _, skipSpace_blank_cons hb (by decide), hread⟩

/-- The members of an object are none, or one and what is left of them. -/
theorem readMembers_eq_ok_iff :
    readMembers item s = .ok (members, rest) ↔
      (skipSpace s = '\x7d' :: rest ∧ members = [])
      ∨ ∃ q m t ms, skipSpace s = '"' :: q ∧ readMember item q = .ok (m, t)
        ∧ moreMembers item (t.length + 1) t = .ok (ms, rest) ∧ m :: ms = members := by
  rw [readMembers]
  rcases hs : skipSpace s with _ | ⟨c, q⟩
  · simp
  by_cases hclose : c = '\x7d'
  · subst hclose
    simp [eq_comm, and_comm]
  by_cases hquote : c = '"'
  · subst hquote
    simp [bind_cons_eq_ok_iff fun t => moreMembers item (t.length + 1) t]
  · simp [hclose, hquote]

/-- What is left of the members is none, or one behind a comma and what is left then. -/
theorem moreMembers_eq_ok_iff {fuel : Nat} :
    moreMembers item (fuel + 1) s = .ok (members, rest) ↔
      (skipSpace s = '\x7d' :: rest ∧ members = [])
      ∨ ∃ r q m t ms, skipSpace s = ',' :: r ∧ skipSpace r = '"' :: q
        ∧ readMember item q = .ok (m, t) ∧ moreMembers item fuel t = .ok (ms, rest)
        ∧ m :: ms = members := by
  rw [moreMembers]
  rcases hs : skipSpace s with _ | ⟨c, r⟩
  · simp
  by_cases hclose : c = '\x7d'
  · subst hclose
    simp [eq_comm, and_comm]
  by_cases hcomma : c = ','
  · subst hcomma
    rcases hr : skipSpace r with _ | ⟨d, q⟩
    · simp [hr]
    by_cases hquote : d = '"'
    · subst hquote
      simp [hr, bind_cons_eq_ok_iff]
    by_cases hbrace : d = '\x7d'
    · subst hbrace
      simp [hr]
    · simp [hr, hquote, hbrace]
  · simp [hclose, hcomma]

theorem follow_brace : Follow ('\x7d' :: rest) := by simp [Follow]

/-- The members behind a comma read up to the brace. -/
theorem moreMembers_text : ∀ {members : List (String × Json)} {t a : List Char} {fuel : Nat},
    MembersText members t → (∀ m ∈ members, Reads item m.2) → Blank a → t.length + 1 < fuel →
      moreMembers item fuel (a ++ ',' :: (t ++ '\x7d' :: rest)) = .ok (members, rest)
  | _, _, _, 0, _, _, _, hf => absurd hf (by omega)
  | _, _, _, fuel + 1, .one h, hr, ha, hf => by
    obtain ⟨q, b, hs, hb, hread⟩ := h.read (hr _ (by simp)) follow_brace
    obtain ⟨fuel, rfl⟩ : ∃ f, fuel = f + 1 := ⟨fuel - 1, by omega⟩
    have hclose : skipSpace (b ++ '\x7d' :: rest) = '\x7d' :: rest :=
      skipSpace_blank_cons hb (by decide)
    exact moreMembers_eq_ok_iff.2 (.inr ⟨_, q, _, _, [], skipSpace_blank_cons ha (by decide), hs,
      hread, moreMembers_eq_ok_iff.2 (.inl ⟨hclose, rfl⟩), rfl⟩)
  | _, _, _, fuel + 1, .cons h hrest, hr, ha, hf => by
    rename_i m rest' s t
    obtain ⟨q, b, hs, hb, hread⟩ := h.read (hr _ (by simp)) follow_comma
    have hlen : t.length + 1 < fuel := by
      simp only [List.length_append, List.length_cons] at hf
      omega
    rw [List.append_assoc, List.cons_append]
    exact moreMembers_eq_ok_iff.2 (.inr ⟨_, q, m, _, rest', skipSpace_blank_cons ha (by decide),
      hs, hread, moreMembers_text hrest (fun w hw => hr w (List.mem_cons_of_mem _ hw)) hb hlen,
      rfl⟩)

/-- The members of an object read up to its brace. -/
theorem readMembers_text (h : MembersText members t) (hr : ∀ m ∈ members, Reads item m.2) :
    readMembers item (t ++ '\x7d' :: rest) = .ok (members, rest) := by
  rcases h with h | ⟨h, hrest⟩
  · obtain ⟨q, b, hs, hb, hread⟩ := h.read (hr _ (by simp)) follow_brace
    have hclose : skipSpace (b ++ '\x7d' :: rest) = '\x7d' :: rest :=
      skipSpace_blank_cons hb (by decide)
    exact readMembers_eq_ok_iff.2 (.inr ⟨q, _, _, [], hs, hread,
      moreMembers_eq_ok_iff.2 (.inl ⟨hclose, rfl⟩), rfl⟩)
  · rename_i m rest' s t
    obtain ⟨q, b, hs, hb, hread⟩ := h.read (hr _ (by simp)) follow_comma
    have hlen : t.length + 1 < (b ++ ',' :: (t ++ '\x7d' :: rest)).length + 1 := by
      simp only [List.length_append, List.length_cons]
      omega
    rw [List.append_assoc, List.cons_append]
    exact readMembers_eq_ok_iff.2 (.inr ⟨q, m, _, rest', hs, hread,
      moreMembers_text hrest (fun w hw => hr w (List.mem_cons_of_mem _ hw)) hb hlen, rfl⟩)

end Members

section Values

variable {a rest : List Char}

theorem readWord_append (v : Json) : ∀ w : List Char, readWord v w (w ++ rest) = .ok (v, rest)
  | [] => rfl
  | c :: w => by rw [List.cons_append, readWord, if_pos rfl, readWord_append v w]

theorem readValue_digit {c : Char} {s q : List Char} (bound : Nat) (hs : skipSpace s = c :: q)
    (hc : (digit? c).isSome = true) : readValue bound s = readNumber false (c :: q) := by
  have hother : ∀ d : Char, digit? d = none → c ≠ d := by
    rintro d hd rfl
    rw [hd] at hc
    exact absurd hc (by decide)
  rw [readValue, hs]
  simp [hc, hother 'n' rfl, hother 't' rfl, hother 'f' rfl, hother '"' rfl, hother '-' rfl,
    hother '[' rfl, hother '\x7b' rfl]

/-- An integer of sixty-four bits reads as itself. -/
theorem readValue_int {n : Int} (bound : Nat) (hlow : -9223372036854775808 ≤ n)
    (hhigh : n ≤ 18446744073709551615) (ha : Blank a) (h : Follow rest) :
    readValue bound (a ++ ((toString n).toList ++ rest)) = .ok (.int n, rest) := by
  cases n with
  | ofNat n =>
    obtain ⟨c, ds, hds, hc, -⟩ := toDigits_eq_cons n
    rw [Int.ofNat_eq_natCast] at hhigh ⊢
    have hread := readNumber_nat (n := n) (by omega) h
    rw [toList_toString_nat]
    rw [hds, List.cons_append] at hread ⊢
    rw [readValue_digit bound (skipSpace_blank_cons ha (isSpace_of_isDigit hc))
      (by rw [digit?_of_isDigit hc, Option.isSome_some]), hread]
  | negSucc n =>
    rw [toList_toString_negSucc, List.cons_append, readValue,
      skipSpace_blank_cons ha (by decide)]
    exact readNumber_neg (Nat.succ_pos n) (by omega) h

theorem depth_le_of_mem {v : Json} : ∀ {items : List Json}, v ∈ items → v.depth ≤ depthItems items
  | w :: rest, h => by
    rcases List.mem_cons.1 h with rfl | h
    · exact Nat.le_max_left _ _
    · exact Nat.le_trans (depth_le_of_mem h) (Nat.le_max_right _ _)

theorem depth_le_of_mem_members {m : String × Json} : ∀ {members : List (String × Json)},
    m ∈ members → m.2.depth ≤ depthMembers members
  | (k, w) :: rest, h => by
    rcases List.mem_cons.1 h with rfl | h
    · exact Nat.le_max_left _ _
    · exact Nat.le_trans (depth_le_of_mem_members h) (Nat.le_max_right _ _)

theorem readValue_bracket {s q : List Char} (bound : Nat) (hs : skipSpace s = '[' :: q) :
    readValue (bound + 2) s
      = (readItems (readValue (bound + 1)) q).map fun (vs, t) => (.array vs, t) := by
  rw [readValue, hs]
  rfl

theorem readValue_brace {s q : List Char} (bound : Nat) (hs : skipSpace s = '\x7b' :: q) :
    readValue (bound + 2) s
      = (readMembers (readValue (bound + 1)) q).map fun (ms, t) => (.object ms, t) := by
  rw [readValue, hs]
  rfl

/-- A value that nests less deep than the bound is read from all its texts. -/
theorem reads_readValue : ∀ {bound : Nat} {v : Json}, v.depth < bound → Reads (readValue bound) v
  | 0, _, hd, _, _, _, _, _, _ => absurd hd (Nat.not_lt_zero _)
  | bound + 1, v, hd, a, s, rest, ha, hs, hrest => by
    -- where something nests, the reader leaves room for it; inside, the bound is one less
    have hnested : 0 < v.depth → ∃ b, bound = b + 1 := fun h => ⟨bound - 1, by omega⟩
    cases hs with
    | null =>
      rw [readValue, show "null".toList = 'n' :: "ull".toList from rfl, List.cons_append,
        skipSpace_blank_cons ha (by decide)]
      exact readWord_append .null _
    | bool b =>
      cases b with
      | false =>
        rw [readValue, show (toString false).toList = 'f' :: "alse".toList from rfl,
          List.cons_append, skipSpace_blank_cons ha (by decide)]
        exact readWord_append _ _
      | true =>
        rw [readValue, show (toString true).toList = 't' :: "rue".toList from rfl,
          List.cons_append, skipSpace_blank_cons ha (by decide)]
        exact readWord_append _ _
    | int hlow hhigh => exact readValue_int _ hlow hhigh ha hrest
    | string h =>
      obtain ⟨t, rfl, hread⟩ := readString_text h
      rw [readValue, List.cons_append, skipSpace_blank_cons ha (by decide)]
      simp only [hread]
      rfl
    | @emptyArray b hb =>
      obtain ⟨bound, rfl⟩ := hnested (Nat.succ_pos _)
      have hclose : skipSpace (b ++ ']' :: rest) = ']' :: rest :=
        skipSpace_blank_cons hb (by decide)
      rw [List.cons_append, List.append_assoc, List.singleton_append,
        readValue_bracket _ (skipSpace_blank_cons ha (by decide)),
        readItems_eq_ok_iff.2 (.inl ⟨hclose, rfl⟩)]
      rfl
    | array h =>
      obtain ⟨bound, rfl⟩ := hnested (Nat.succ_pos _)
      rw [List.cons_append, List.append_assoc, List.singleton_append,
        readValue_bracket _ (skipSpace_blank_cons ha (by decide)),
        readItems_text h fun w hw => reads_readValue
          (Nat.lt_of_le_of_lt (depth_le_of_mem hw) (Nat.lt_of_succ_lt_succ hd))]
      rfl
    | @emptyObject b hb =>
      obtain ⟨bound, rfl⟩ := hnested (Nat.succ_pos _)
      have hclose : skipSpace (b ++ '\x7d' :: rest) = '\x7d' :: rest :=
        skipSpace_blank_cons hb (by decide)
      rw [List.cons_append, List.append_assoc, List.singleton_append,
        readValue_brace _ (skipSpace_blank_cons ha (by decide)),
        readMembers_eq_ok_iff.2 (.inl ⟨hclose, rfl⟩)]
      rfl
    | object h =>
      obtain ⟨bound, rfl⟩ := hnested (Nat.succ_pos _)
      rw [List.cons_append, List.append_assoc, List.singleton_append,
        readValue_brace _ (skipSpace_blank_cons ha (by decide)),
        readMembers_text h fun m hm => reads_readValue
          (Nat.lt_of_le_of_lt (depth_le_of_mem_members hm) (Nat.lt_of_succ_lt_succ hd))]
      rfl

/-- A text reads as the value that it writes, however blanks and escapes were chosen. -/
theorem read_padded {v : Json} {text : String} (hd : v.depth ≤ 127)
    (h : Padded v text.toList) : read text = .ok v := by
  have hreads : Reads (readValue depthBound) v := reads_readValue (Nat.lt_succ_of_le hd)
  obtain ⟨-, -, b, -, -, hb, -, hread⟩ := h.read hreads follow_nil
  rw [List.append_nil, List.append_nil] at hread
  have hend : skipSpace b = [] := by
    rw [← List.append_nil b, skipSpace_blank hb]
    rfl
  rw [read, readChars, hread]
  simp only [ok_bind, hend]

end Values

end Conformance.Json
