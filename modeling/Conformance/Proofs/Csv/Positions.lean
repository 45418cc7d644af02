import Conformance.Proofs.Csv

/-!
# What each position of a text does

The reader keeps a flag and takes two quotes at once, but what becomes of a character can be told
by counting: a position is `Open` if an even number of quotes stands in front of it. An open line
feed ends a record, an open comma ends a field, and all other characters but quotes are kept, apart
from a carriage return of an open line end; of the quotes, the first of each doubled one is kept.
`recordsAt` cuts the positions of a text in this way, `parseFrom_eq_counted` says that the reader
does the same from any position on, and `parse_eq_positions` what that means for a whole text.
-/

namespace Conformance.Csv

section Cutting

variable {α β : Type} {p : α → Bool}

theorem exists_splitOnP_eq_cons (p : α → Bool) (l : List α) :
    ∃ part parts, l.splitOnP p = part :: parts :=
  List.exists_cons_of_ne_nil (List.splitOnP_ne_nil p l)

theorem splitOnP_cons_of_pos {a : α} (h : p a = true) (l : List α) :
    (a :: l).splitOnP p = [] :: l.splitOnP p := by
  rw [List.splitOnP_cons_eq_if_modifyHead, if_pos h]

theorem splitOnP_cons_of_neg {a : α} (h : p a = false) {l part : List α} {parts : List (List α)}
    (hl : l.splitOnP p = part :: parts) : (a :: l).splitOnP p = (a :: part) :: parts := by
  rw [List.splitOnP_cons_eq_if_modifyHead, if_neg (by simp [h]), hl, List.modifyHead_cons]

theorem length_splitOnP (p : α → Bool) : ∀ l : List α, (l.splitOnP p).length = l.countP p + 1
  | [] => rfl
  | a :: l => by
    have ih := length_splitOnP p l
    rcases h : p a with _ | _
    · obtain ⟨part, parts, hl⟩ := exists_splitOnP_eq_cons p l
      rw [splitOnP_cons_of_neg h hl, List.countP_cons_of_neg (by simp [h]), ← ih, hl]
      rfl
    · rw [splitOnP_cons_of_pos h, List.countP_cons_of_pos h, List.length_cons, ih]

/-- Cutting a list loses only the elements at which it is cut. -/
theorem flatMap_splitOnP {f : α → Option β} (h : ∀ a, p a = true → f a = none) :
    ∀ l : List α, (l.splitOnP p).flatMap (·.filterMap f) = l.filterMap f
  | [] => rfl
  | a :: l => by
    have ih := flatMap_splitOnP h l
    rcases ha : p a with _ | _
    · obtain ⟨part, parts, hl⟩ := exists_splitOnP_eq_cons p l
      rw [hl, List.flatMap_cons] at ih
      rw [splitOnP_cons_of_neg ha hl, List.flatMap_cons]
      rcases hf : f a with _ | b
      · rw [List.filterMap_cons_none hf, List.filterMap_cons_none hf, ih]
      · rw [List.filterMap_cons_some hf, List.filterMap_cons_some hf, List.cons_append, ih]
    · rw [splitOnP_cons_of_pos ha, List.flatMap_cons, List.filterMap_nil, List.nil_append, ih,
        List.filterMap_cons_none (h a ha)]

end Cutting

section Positions

variable (s : List Char) (i : Nat)

/-- An even number of quotes stands in front of the position. -/
def Open : Prop := (s.take i).count '"' % 2 = 0

instance : Decidable (Open s i) := inferInstanceAs (Decidable (_ = _))

/-- An open line feed. -/
def EndsRecord : Prop := s[i]? = some '\n' ∧ Open s i

instance : Decidable (EndsRecord s i) := inferInstanceAs (Decidable (_ ∧ _))

/-- An open comma. -/
def EndsField : Prop := s[i]? = some ',' ∧ Open s i

instance : Decidable (EndsField s i) := inferInstanceAs (Decidable (_ ∧ _))

/-- An open carriage return directly before a line feed. -/
def BeforeFeed : Prop := s[i]? = some '\r' ∧ s[i + 1]? = some '\n' ∧ Open s i

instance : Decidable (BeforeFeed s i) := inferInstanceAs (Decidable (_ ∧ _))

/-- The first of two quotes in a row, inside quotes. -/
def Doubled : Prop := s[i]? = some '"' ∧ s[i + 1]? = some '"' ∧ ¬ Open s i

instance : Decidable (Doubled s i) := inferInstanceAs (Decidable (_ ∧ _))

/-- The character at the position stands in a field: a doubled quote, or no quote and nothing that
ends a record, a field or a line. -/
def Kept : Prop :=
  Doubled s i ∨
    i < s.length ∧ s[i]? ≠ some '"' ∧ ¬ EndsRecord s i ∧ ¬ EndsField s i ∧ ¬ BeforeFeed s i

instance : Decidable (Kept s i) := inferInstanceAs (Decidable (_ ∨ _))

/-- The characters that are kept of some positions. -/
def keptAt (part : List Nat) : List Char :=
  part.filterMap fun i => if Kept s i then s[i]? else none

/-- The fields that some positions make up. -/
def fieldsAt (part : List Nat) : List (List Char) :=
  (part.splitOnP (EndsField s ·)).map (keptAt s)

/-- The records that some positions make up, with what stands behind the last end. -/
def recordsAt (part : List Nat) : Records :=
  (part.splitOnP (EndsRecord s ·)).map (fieldsAt s)

end Positions

section Steps

variable {s : List Char} {i : Nat} {c : Char} {rest : List Char}

theorem getElem?_of_drop (h : s.drop i = c :: rest) : s[i]? = some c := by
  rw [← List.head?_drop, h, List.head?_cons]

theorem drop_succ_of_drop (h : s.drop i = c :: rest) : s.drop (i + 1) = rest := by
  rw [← List.tail_drop, h, List.tail_cons]

theorem getElem?_succ_of_drop (h : s.drop i = c :: rest) : s[i + 1]? = rest.head? := by
  rw [← List.head?_drop, drop_succ_of_drop h]

theorem open_succ_of_quote (h : s[i]? = some '"') : Open s (i + 1) ↔ ¬ Open s i := by
  unfold Open
  rw [List.take_add_one, h, List.count_append, Option.toList_some, List.count_singleton_self]
  omega

theorem open_succ_of_ne (h : s[i]? = some c) (hc : c ≠ '"') : Open s (i + 1) ↔ Open s i := by
  unfold Open
  rw [List.take_add_one, h, List.count_append]
  simp [hc]

theorem kept_quote_iff (h : s[i]? = some '"') : Kept s i ↔ Doubled s i := by
  simp [Kept, h]

theorem kept_iff_of_ne (h : s[i]? = some c) (hc : c ≠ '"') :
    Kept s i ↔ ¬ EndsRecord s i ∧ ¬ EndsField s i ∧ ¬ BeforeFeed s i := by
  have hne : s[i]? ≠ some '"' := by simpa [h] using hc
  constructor
  · rintro (hd | ⟨-, -, hnone⟩)
    · exact absurd hd.1 hne
    · exact hnone
  · exact fun hnone => .inr ⟨(List.getElem?_eq_some_iff.1 h).1, hne, hnone⟩

theorem ends_nothing_of_ne (h : s[i]? = some c) (hcomma : c ≠ ',') (hfeed : c ≠ '\n') :
    ¬ EndsRecord s i ∧ ¬ EndsField s i := by
  simp [EndsRecord, EndsField, h, hcomma, hfeed]

theorem ends_nothing_of_quote (h : s[i]? = some '"') : ¬ EndsRecord s i ∧ ¬ EndsField s i :=
  ends_nothing_of_ne h (by decide) (by decide)

/-- Inside quotes every character but a quote is kept. -/
theorem kept_of_not_open (h : s[i]? = some c) (hc : c ≠ '"') (ho : ¬ Open s i) : Kept s i := by
  rw [kept_iff_of_ne h hc]
  simp [EndsRecord, EndsField, BeforeFeed, ho]

/-- Outside quotes all is kept but quotes and what ends a field, a line or a record. -/
theorem kept_iff_of_open (h : s[i]? = some c) (hquote : c ≠ '"') (hcomma : c ≠ ',')
    (hfeed : c ≠ '\n') (ho : Open s i) : Kept s i ↔ ¬ (c = '\r' ∧ s[i + 1]? = some '\n') := by
  rw [kept_iff_of_ne h hquote]
  simp [ends_nothing_of_ne h hcomma hfeed, BeforeFeed, h, ho]

theorem Kept.ends_nothing (h : Kept s i) : ¬ EndsRecord s i ∧ ¬ EndsField s i := by
  rcases h with h | ⟨-, -, hr, hf, -⟩
  · exact ends_nothing_of_quote h.1
  · exact ⟨hr, hf⟩

theorem Kept.exists_getElem? (h : Kept s i) : ∃ c, s[i]? = some c := by
  rcases h with h | ⟨hi, -⟩
  · exact ⟨_, h.1⟩
  · exact ⟨_, List.getElem?_eq_getElem hi⟩

theorem EndsField.not_endsRecord (h : EndsField s i) : ¬ EndsRecord s i := by
  rintro ⟨hc, -⟩
  rw [h.1] at hc
  simp at hc

end Steps

/-- The records with some fields and a text in front of the first. -/
def behind (fields : List (List Char)) (done : List Char) : Records → Records
  | (f :: fs) :: records => (fields ++ (done.reverse ++ f) :: fs) :: records
  | records => records

/-- The records, without the last one if it has no comma and no character. -/
def counted : Records → Records
  | [] => []
  | [r] => if r = [[]] then [] else [r]
  | r :: r' :: records => r :: counted (r' :: records)

section Reading

variable {s : List Char} {i : Nat} {part : List Nat} (fields : List (List Char)) (done : List Char)

theorem recordsAt_of_splits {a b : List Nat} {as bs : List (List Nat)}
    (ha : part.splitOnP (EndsRecord s ·) = a :: as) (hb : a.splitOnP (EndsField s ·) = b :: bs) :
    recordsAt s part = (keptAt s b :: bs.map (keptAt s)) :: as.map (fieldsAt s) := by
  unfold recordsAt
  rw [ha, List.map_cons]
  unfold fieldsAt
  rw [hb, List.map_cons]

theorem exists_recordsAt_eq (s : List Char) (part : List Nat) :
    ∃ f fs records, recordsAt s part = (f :: fs) :: records := by
  obtain ⟨a, as, ha⟩ := exists_splitOnP_eq_cons (fun i => decide (EndsRecord s i)) part
  obtain ⟨b, bs, hb⟩ := exists_splitOnP_eq_cons (fun i => decide (EndsField s i)) a
  exact ⟨_, _, _, recordsAt_of_splits ha hb⟩

theorem counted_endsRecord (h : EndsRecord s i) :
    counted (behind fields done (recordsAt s (i :: part)))
      = (fields ++ [done.reverse]) :: counted (behind [] [] (recordsAt s part)) := by
  obtain ⟨f, fs, records, hr⟩ := exists_recordsAt_eq s part
  have hi : recordsAt s (i :: part) = [[]] :: recordsAt s part := by
    unfold recordsAt
    rw [splitOnP_cons_of_pos (by simpa using h), List.map_cons]
    rfl
  rw [hi, hr]
  simp [behind, counted]

theorem behind_endsField (h : EndsField s i) :
    behind fields done (recordsAt s (i :: part))
      = behind (fields ++ [done.reverse]) [] (recordsAt s part) := by
  obtain ⟨a, as, ha⟩ := exists_splitOnP_eq_cons (fun i => decide (EndsRecord s i)) part
  obtain ⟨b, bs, hb⟩ := exists_splitOnP_eq_cons (fun i => decide (EndsField s i)) a
  have hcons := splitOnP_cons_of_neg (a := i) (decide_eq_false h.not_endsRecord) ha
  have hfield := splitOnP_cons_of_pos (p := (EndsField s ·)) (decide_eq_true h) a
  rw [recordsAt_of_splits hcons hfield, recordsAt_of_splits ha hb, hb]
  simp [behind, keptAt]

/-- A position that ends nothing gives its character, if it is kept, to the first field behind. -/
theorem recordsAt_inner (hr : ¬ EndsRecord s i) (hf : ¬ EndsField s i) (part : List Nat) :
    ∃ f fs records, recordsAt s part = (f :: fs) :: records
      ∧ recordsAt s (i :: part) = ((keptAt s [i] ++ f) :: fs) :: records := by
  obtain ⟨a, as, ha⟩ := exists_splitOnP_eq_cons (fun i => decide (EndsRecord s i)) part
  obtain ⟨b, bs, hb⟩ := exists_splitOnP_eq_cons (fun i => decide (EndsField s i)) a
  refine ⟨_, _, _, recordsAt_of_splits ha hb, ?_⟩
  have hcons := splitOnP_cons_of_neg (a := i) (decide_eq_false hr) ha
  have hfield := splitOnP_cons_of_neg (a := i) (decide_eq_false hf) hb
  have hkept : keptAt s (i :: b) = keptAt s [i] ++ keptAt s b := by
    unfold keptAt
    rw [← List.filterMap_append, List.singleton_append]
  rw [recordsAt_of_splits hcons hfield, hkept]

theorem behind_kept {c : Char} (hk : Kept s i) (hc : s[i]? = some c) :
    behind fields done (recordsAt s (i :: part))
      = behind fields (c :: done) (recordsAt s part) := by
  obtain ⟨f, fs, records, hpart, hcons⟩ := recordsAt_inner hk.ends_nothing.1 hk.ends_nothing.2 part
  have hi : keptAt s [i] = [c] := by simp [keptAt, hk, hc]
  rw [hcons, hpart, hi]
  simp [behind]

theorem behind_dropped (hk : ¬ Kept s i) (he : ¬ EndsRecord s i ∧ ¬ EndsField s i) :
    behind fields done (recordsAt s (i :: part)) = behind fields done (recordsAt s part) := by
  obtain ⟨f, fs, records, hpart, hcons⟩ := recordsAt_inner he.1 he.2 part
  have hi : keptAt s [i] = [] := by simp [keptAt, hk]
  rw [hcons, hpart, hi, List.nil_append]

/-- From any position on, the reader does what the counts of quotes say. -/
theorem parseFrom_eq_counted (quoted : Bool) (rest : List Char) (hdrop : s.drop i = rest)
    (hquoted : quoted = true ↔ ¬ Open s i) :
    parseFrom quoted done fields rest
      = counted (behind fields done (recordsAt s (List.range' i rest.length))) := by
  fun_induction parseFrom quoted done fields rest generalizing i with
  | case1 quoted done fields hnil =>
    obtain ⟨rfl, rfl⟩ : done = [] ∧ fields = [] := by simpa using hnil
    rfl
  | case2 quoted done fields hsome =>
    have hne : fields ++ [done.reverse] ≠ [[]] := by
      rcases fields with _ | ⟨f, fields⟩
      · simpa using hsome
      · simp
    have hr : recordsAt s (List.range' i 0) = [[[]]] := rfl
    rw [List.length_nil, hr]
    simp [behind, counted, hne]
  | case3 done fields rest ih =>
    -- of the two quotes, which stand at `i` and behind it, the first is kept
    have hc := getElem?_of_drop hdrop
    have hdrop' := drop_succ_of_drop hdrop
    have hc' := getElem?_of_drop hdrop'
    have ho : ¬ Open s i := hquoted.1 rfl
    have ho' : Open s (i + 1) := by simpa [ho] using open_succ_of_quote hc
    have hk : Kept s i := (kept_quote_iff hc).2 ⟨hc, hc', ho⟩
    have hk' : ¬ Kept s (i + 1) := fun h => ((kept_quote_iff hc').1 h).2.2 ho'
    rw [List.length_cons, List.length_cons, List.range'_succ, List.range'_succ,
      behind_kept fields done hk hc, behind_dropped fields _ hk' (ends_nothing_of_quote hc')]
    exact ih (drop_succ_of_drop hdrop') (by simpa [ho'] using open_succ_of_quote hc')
  | case4 done fields rest hquote ih =>
    have hc := getElem?_of_drop hdrop
    have hk : ¬ Kept s i := by
      intro h
      have hnext := ((kept_quote_iff hc).1 h).2.1
      rw [getElem?_succ_of_drop hdrop] at hnext
      obtain ⟨rest', hrest⟩ := List.head?_eq_some_iff.1 hnext
      exact hquote rest' hrest
    rw [List.length_cons, List.range'_succ,
      behind_dropped fields done hk (ends_nothing_of_quote hc)]
    exact ih (drop_succ_of_drop hdrop) (by simpa [hquoted.1 rfl] using open_succ_of_quote hc)
  | case5 quoted done fields rest hopen ih =>
    have hc := getElem?_of_drop hdrop
    have ho : Open s i := by simpa [hopen] using hquoted
    have hk : ¬ Kept s i := fun h => ((kept_quote_iff hc).1 h).2.2 ho
    rw [List.length_cons, List.range'_succ,
      behind_dropped fields done hk (ends_nothing_of_quote hc)]
    exact ih (drop_succ_of_drop hdrop) (by simpa [ho] using open_succ_of_quote hc)
  | case6 done fields c rest hquote ih =>
    have hc := getElem?_of_drop hdrop
    have ho : ¬ Open s i := hquoted.1 rfl
    rw [List.length_cons, List.range'_succ,
      behind_kept fields done (kept_of_not_open hc hquote ho) hc]
    exact ih (drop_succ_of_drop hdrop) (by simpa [ho] using open_succ_of_ne hc hquote)
  | case7 quoted done fields rest hopen hquote ih =>
    have hc := getElem?_of_drop hdrop
    have ho : Open s i := by simpa [hopen] using hquoted
    rw [List.length_cons, List.range'_succ, behind_endsField fields done ⟨hc, ho⟩]
    exact ih (drop_succ_of_drop hdrop) (by simpa [ho] using open_succ_of_ne hc hquote)
  | case8 quoted done fields rest hopen hquote hcomma ih =>
    have hc := getElem?_of_drop hdrop
    have ho : Open s i := by simpa [hopen] using hquoted
    rw [List.length_cons, List.range'_succ, counted_endsRecord fields done ⟨hc, ho⟩,
      ih (drop_succ_of_drop hdrop) (by simpa [ho] using open_succ_of_ne hc hquote)]
  | case9 quoted done fields c rest hquote hopen hcomma hfeed hreturn ih =>
    have hc := getElem?_of_drop hdrop
    have ho : Open s i := by simpa [hopen] using hquoted
    have hk : ¬ Kept s i := by
      rw [kept_iff_of_open hc hquote hcomma hfeed ho, getElem?_succ_of_drop hdrop]
      simpa using hreturn
    rw [List.length_cons, List.range'_succ,
      behind_dropped fields done hk (ends_nothing_of_ne hc hcomma hfeed)]
    exact ih (drop_succ_of_drop hdrop) (by simpa [ho] using open_succ_of_ne hc hquote)
  | case10 quoted done fields c rest hquote hopen hcomma hfeed hreturn ih =>
    have hc := getElem?_of_drop hdrop
    have ho : Open s i := by simpa [hopen] using hquoted
    have hk : Kept s i := by
      rw [kept_iff_of_open hc hquote hcomma hfeed ho, getElem?_succ_of_drop hdrop]
      simpa using hreturn
    rw [List.length_cons, List.range'_succ, behind_kept fields done hk hc]
    exact ih (drop_succ_of_drop hdrop) (by simpa [ho] using open_succ_of_ne hc hquote)

end Reading

section Counting

variable (s : List Char) (part : List Nat)

theorem not_kept_of_endsRecord (i : Nat) (h : decide (EndsRecord s i) = true) :
    (if Kept s i then s[i]? else none) = none :=
  if_neg fun hk => hk.ends_nothing.1 (of_decide_eq_true h)

theorem not_kept_of_endsField (i : Nat) (h : decide (EndsField s i) = true) :
    (if Kept s i then s[i]? else none) = none :=
  if_neg fun hk => hk.ends_nothing.2 (of_decide_eq_true h)

theorem flatten_fieldsAt : (fieldsAt s part).flatten = keptAt s part := by
  unfold fieldsAt keptAt
  rw [← List.flatMap_def, flatMap_splitOnP (not_kept_of_endsField s)]

theorem length_fieldsAt : (fieldsAt s part).length = part.countP (EndsField s ·) + 1 := by
  unfold fieldsAt
  rw [List.length_map, length_splitOnP]

theorem keptAt_eq_nil_iff : keptAt s part = [] ↔ ∀ i ∈ part, ¬ Kept s i := by
  unfold keptAt
  rw [List.filterMap_eq_nil_iff]
  refine forall₂_congr fun i _ => ?_
  by_cases hk : Kept s i
  · obtain ⟨c, hc⟩ := hk.exists_getElem?
    simp [hk, hc]
  · simp [hk]

/-- Some positions make up nothing exactly if no comma and no character is among them. -/
theorem fieldsAt_eq_iff :
    fieldsAt s part = [[]] ↔ ¬ ∃ i ∈ part, EndsField s i ∨ Kept s i := by
  have hlength := length_fieldsAt s part
  have hflatten := flatten_fieldsAt s part
  constructor
  · rintro h ⟨i, hi, he | hk⟩
    · rw [h, List.length_singleton] at hlength
      have : 0 < part.countP (EndsField s ·) := List.countP_pos_iff.2 ⟨i, hi, by simpa using he⟩
      omega
    · rw [h] at hflatten
      exact (keptAt_eq_nil_iff s part).1 hflatten.symm i hi hk
  · intro h
    have hcount : part.countP (EndsField s ·) = 0 := by
      rw [List.countP_eq_zero]
      exact fun i hi he => h ⟨i, hi, .inl (of_decide_eq_true he)⟩
    rw [hcount] at hlength
    obtain ⟨f, hf⟩ := List.length_eq_one_iff.1 hlength
    rw [hf] at hflatten ⊢
    have hkept : keptAt s part = [] :=
      (keptAt_eq_nil_iff s part).2 fun i hi hk => h ⟨i, hi, .inr hk⟩
    rw [hkept] at hflatten
    simpa using hflatten

theorem flatten_recordsAt : (recordsAt s part).flatten.flatten = keptAt s part := by
  have hfields : List.flatten ∘ fieldsAt s = keptAt s := funext (flatten_fieldsAt s)
  unfold recordsAt
  rw [List.flatten_flatten, List.map_map, hfields, ← List.flatMap_def]
  exact flatMap_splitOnP (not_kept_of_endsRecord s) part

theorem counted_concat (r : List (List Char)) : ∀ records : Records,
    counted (records ++ [r]) = records ++ if r = [[]] then [] else [r]
  | [] => by by_cases h : r = [[]] <;> simp [counted, h]
  | [r'] => rfl
  | r' :: r'' :: records => by
    have ih := counted_concat r (r'' :: records)
    rw [List.cons_append] at ih
    rw [List.cons_append, List.cons_append, counted, ih]
    rfl

/-- The last part counts if it has a comma or a character. -/
theorem counted_recordsAt {ended : List (List Nat)} {last : List Nat}
    (h : part.splitOnP (EndsRecord s ·) = ended ++ [last]) :
    counted (recordsAt s part)
      = (ended ++ if ∃ i ∈ last, EndsField s i ∨ Kept s i then [last] else []).map
          (fieldsAt s) := by
  unfold recordsAt
  rw [h, List.map_append, List.map_singleton, counted_concat, List.map_append]
  by_cases hlast : ∃ i ∈ last, EndsField s i ∨ Kept s i
  · have hne : fieldsAt s last ≠ [[]] := fun he => (fieldsAt_eq_iff s last).1 he hlast
    rw [if_pos hlast, if_neg hne, List.map_singleton]
  · rw [if_neg hlast, if_pos ((fieldsAt_eq_iff s last).2 hlast), List.map_nil]

theorem flatten_counted : ∀ records : Records,
    (counted records).flatten.flatten = records.flatten.flatten
  | [] => rfl
  | [r] => by by_cases h : r = [[]] <;> simp [counted, h]
  | r :: r' :: records => by
    have ih := flatten_counted (r' :: records)
    rw [counted, List.flatten_cons, List.flatten_append, ih, ← List.flatten_append,
      ← List.flatten_cons]

/-- The quotes that are kept are those of the doubled ones. -/
theorem count_keptAt : (keptAt s part).count '"' = part.countP (Doubled s ·) := by
  unfold keptAt
  rw [List.count_filterMap]
  refine List.countP_congr fun i _ => ?_
  by_cases hc : s[i]? = some '"'
  · by_cases hk : Kept s i
    · simp [hk, hc, (kept_quote_iff hc).1 hk]
    · simp [hk, mt (kept_quote_iff hc).2 hk]
  · have hd : ¬ Doubled s i := fun h => hc h.1
    by_cases hk : Kept s i <;> simp [hk, hc, hd]

theorem parseFrom_eq_recordsAt :
    parseFrom false [] [] s = counted (recordsAt s (List.range s.length)) := by
  have ho : Open s 0 := rfl
  obtain ⟨f, fs, records, hr⟩ := exists_recordsAt_eq s (List.range s.length)
  have hread := parseFrom_eq_counted [] [] (s := s) (i := 0) false s rfl (by simp [ho])
  rw [hread, ← List.range_eq_range', hr]
  rfl

/-- Cut at its open line feeds and commas, a text gives each record the characters that are kept
between them; what stands behind the last line feed is a record if it has a comma or a character. So
there is one field more than commas in each record, no character is lost or read twice, and of two
quotes in a row inside quotes just one is left. -/
theorem parse_eq_positions (text : String) :
    let s := text.toList
    let all := List.range s.length
    (∃ ended last, all.splitOnP (EndsRecord s ·) = ended ++ [last]
      ∧ let parts := ended ++ if ∃ i ∈ last, EndsField s i ∨ Kept s i then [last] else []
        parse text = parts.map (fun part => (fieldsAt s part).map String.ofList)
          ∧ (parse text).map List.length = parts.map (fun part => part.countP (EndsField s ·) + 1))
      ∧ (parse text).flatten.flatMap String.toList = keptAt s all
      ∧ ((parse text).flatten.flatMap String.toList).count '"' = all.countP (Doubled s ·) := by
  intro s all
  have hread : parse text = (counted (recordsAt s all)).map (·.map String.ofList) := by
    unfold parse
    rw [parseFrom_eq_recordsAt]
  have hchars : (parse text).flatten.flatMap String.toList = keptAt s all := by
    rw [← flatten_recordsAt, ← flatten_counted, hread]
    simp [List.flatMap_def, List.map_flatten, Function.comp_def]
  obtain ⟨ended, last, hparts⟩ : ∃ ended last, all.splitOnP (EndsRecord s ·) = ended ++ [last] :=
    ⟨_, _, (List.dropLast_concat_getLast (List.splitOnP_ne_nil (EndsRecord s ·) all)).symm⟩
  rw [counted_recordsAt s all hparts, List.map_map] at hread
  refine ⟨⟨ended, last, hparts, hread, ?_⟩, hchars, by rw [hchars, count_keptAt]⟩
  rw [hread, List.map_map]
  refine List.map_congr_left fun part _ => ?_
  simp only [Function.comp_apply, List.length_map, length_fieldsAt]

/-- Of the two commas the first is between quotes, and no line feed follows the carriage return. -/
example : parse "a\"\"\"b,\"c,\rd\n" = [["a\"b,c", "\rd"]] := by decide +kernel

end Counting

end Conformance.Csv
