import Conformance.Proofs.Csv.Rendering

/-!
# Texts that break off

What the reader makes of a text of records that breaks off anywhere. A field that breaks off reads
as a start of itself, also between the two quotes that stand for one (`FieldText.torn`), so a record
reads as its first fields and a start of the next (`RecordText.torn`). The lines that stand whole in
the text, of which there are `wholeLines`, read as their records (`parseFrom_torn`).
-/

namespace Conformance.Csv

section Prefixes

variable {α : Type}

/-- A start of two lists in a row ends within the first or within the second. -/
theorem prefix_append_cases {p a b : List α} (h : p <+: a ++ b) :
    p <+: a ∨ ∃ q, p = a ++ q ∧ q <+: b := by
  obtain ⟨lost, h⟩ := h
  rcases List.append_eq_append_iff.1 h with ⟨m, rfl, -⟩ | ⟨q, rfl, hb⟩
  · exact .inl (List.prefix_append p m)
  · exact .inr ⟨q, rfl, lost, hb.symm⟩

end Prefixes

section Fields

theorem doubleQuotes_torn : ∀ (s : List Char) {q : List Char} (done : List Char),
    q <+: doubleQuotes s ++ ['"'] →
    ∃ m, m <+: s ∧ ∀ fields, parseFrom true done fields q = unended fields (done.reverse ++ m)
  | [], q, done, h => by
    refine ⟨[], List.prefix_rfl, fun fields => ?_⟩
    rw [List.append_nil]
    rcases List.prefix_cons_iff.1 h with rfl | ⟨q, rfl, hq⟩
    · exact parseFrom_nil done fields true
    · rw [List.prefix_nil.1 hq, parseFrom_close _ _ (by simp), parseFrom_nil]
  | c :: s, q, done, h => by
    by_cases hc : c = '"'
    · subst hc
      have hd : doubleQuotes ('"' :: s) = '"' :: '"' :: doubleQuotes s := rfl
      rw [hd, List.cons_append, List.cons_append] at h
      rcases List.prefix_cons_iff.1 h with rfl | ⟨q, rfl, hq⟩
      · exact ⟨[], List.nil_prefix, fun fields => by rw [parseFrom_nil, List.append_nil]⟩
      rcases List.prefix_cons_iff.1 hq with rfl | ⟨q', rfl, hq'⟩
      · -- the first of the two quotes alone looks like the one that closes the field
        refine ⟨[], List.nil_prefix, fun fields => ?_⟩
        rw [parseFrom_close _ _ (by simp), parseFrom_nil, List.append_nil]
      · obtain ⟨m, hm, hread⟩ := doubleQuotes_torn s ('"' :: done) hq'
        refine ⟨'"' :: m, List.cons_prefix_cons.2 ⟨rfl, hm⟩, fun fields => ?_⟩
        rw [parseFrom_doubled, hread]
        simp
    · have hd : doubleQuotes (c :: s) = c :: doubleQuotes s := by simp [doubleQuotes, hc]
      rw [hd, List.cons_append] at h
      rcases List.prefix_cons_iff.1 h with rfl | ⟨q, rfl, hq⟩
      · exact ⟨[], List.nil_prefix, fun fields => by rw [parseFrom_nil, List.append_nil]⟩
      · obtain ⟨m, hm, hread⟩ := doubleQuotes_torn s (c :: done) hq
        refine ⟨c :: m, List.cons_prefix_cons.2 ⟨rfl, hm⟩, fun fields => ?_⟩
        rw [parseFrom_inside _ _ hc, hread]
        simp

/-- A field that breaks off reads as a start of the field. -/
theorem FieldText.torn {s : String} {t q : List Char} (h : FieldText s t) (hq : q <+: t) :
    ∃ m, m <+: s.toList ∧ ∀ fields, parseFrom false [] fields q = unended fields m := by
  cases h with
  | quoted =>
    rcases List.prefix_cons_iff.1 hq with rfl | ⟨q', rfl, hq'⟩
    · exact ⟨[], List.nil_prefix, fun fields => parseFrom_nil [] fields false⟩
    · obtain ⟨m, hm, hread⟩ := doubleQuotes_torn s.toList [] hq'
      exact ⟨m, hm, fun fields => by rw [parseFrom_open, hread, List.reverse_nil, List.nil_append]⟩
  | bare hs =>
    refine ⟨q, hq, fun fields => ?_⟩
    have hread :
        parseFrom false [] fields (q ++ []) = parseFrom false (q.reverse ++ []) fields [] :=
      parseFrom_bare [] fun c hc => hs c (hq.subset hc)
    rw [← List.append_nil q, hread, parseFrom_nil, List.reverse_append, List.reverse_reverse]
    simp

/-- The fields of a record that breaks off read as the first of them and a start of the next. -/
theorem RecordText.torn {r : List String} {t q : List Char} (h : RecordText r t) (hq : q <+: t) :
    ∃ init s after m, r = init ++ s :: after ∧ m <+: s.toList ∧ ∀ fields,
      parseFrom false [] fields q = unended (fields ++ init.map String.toList) m := by
  induction h generalizing q with
  | @last s t h =>
    obtain ⟨m, hm, hread⟩ := h.torn hq
    refine ⟨[], s, [], m, rfl, hm, fun fields => ?_⟩
    rw [hread, List.map_nil, List.append_nil]
  | @more s r t u h _ ih =>
    rcases prefix_append_cases hq with hq' | ⟨q', rfl, hq'⟩
    · obtain ⟨m, hm, hread⟩ := h.torn hq'
      refine ⟨[], s, r, m, rfl, hm, fun fields => ?_⟩
      rw [hread, List.map_nil, List.append_nil]
    rcases List.prefix_cons_iff.1 hq' with rfl | ⟨q'', rfl, hq''⟩
    · obtain ⟨m, hm, hread⟩ := h.torn List.prefix_rfl
      refine ⟨[], s, r, m, rfl, hm, fun fields => ?_⟩
      rw [List.append_nil, hread, List.map_nil, List.append_nil]
    · obtain ⟨init, s', after, m, rfl, hm, hread⟩ := ih hq''
      refine ⟨s :: init, s', after, m, rfl, hm, fun fields => ?_⟩
      rw [parseFrom_fieldText h fields (by simp), parseFrom_comma, hread]
      simp

end Fields

section Lines

/-- How many lines of the records stand whole at the start of a text, one behind the other. -/
def wholeLines : List (List String) → List Char → Nat
  | [], _ => 0
  | r :: records, p =>
    if (line r).toList <+: p then wholeLines records (p.drop (line r).toList.length) + 1 else 0

/-- A line that breaks off before its end breaks off within its fields. -/
theorem torn_line {r : List String} {p rest : List Char} (h : p <+: (line r).toList ++ rest)
    (hline : ¬ (line r).toList <+: p) : p <+: [','].intercalate (r.map field) := by
  rcases prefix_append_cases h with hp | ⟨q, rfl, -⟩
  · rw [toList_line] at hp hline
    rcases List.prefix_concat_iff.1 hp with rfl | hp
    · exact absurd List.prefix_rfl hline
    · exact hp
  · exact absurd (List.prefix_append _ q) hline

/-- A text of records that breaks off reads as the records of its whole lines, and then perhaps as
one more, which has the first fields of the next and ends with a start of the field behind them. -/
theorem parseFrom_torn : ∀ {records : List (List String)} {p : List Char},
    (∀ r ∈ records, r ≠ []) → p <+: (text records).toList →
    let whole := (records.take (wholeLines records p)).map (·.map String.toList)
    parseFrom false [] [] p = whole
      ∨ ∃ init s after m, records[wholeLines records p]? = some (init ++ s :: after)
        ∧ m <+: s.toList ∧ parseFrom false [] [] p = whole ++ [init.map String.toList ++ [m]]
  | [], p, _, h => by
    have hp : p = [] := List.prefix_nil.1 h
    exact .inl (by rw [hp]; rfl)
  | r :: records, p, hne, h => by
    intro whole
    have hr := recordText_fields (hne r List.mem_cons_self)
    rw [text_cons, String.toList_append] at h
    by_cases hline : (line r).toList <+: p
    · obtain ⟨q, rfl⟩ := hline
      have ih := parseFrom_torn (fun r' hr' => hne r' (List.mem_cons_of_mem r hr'))
        ((List.prefix_append_right_inj _).1 h)
      have hk : wholeLines (r :: records) ((line r).toList ++ q) = wholeLines records q + 1 := by
        simp [wholeLines]
      have hread : parseFrom false [] [] ((line r).toList ++ q)
          = r.map String.toList :: parseFrom false [] [] q := by
        rw [toList_line, List.append_assoc, parseFrom_record hr .feed]
      simp only [whole, hk, hread, List.take_succ_cons, List.map_cons, List.cons_append,
        List.cons.injEq, true_and, List.getElem?_cons_succ]
      exact ih
    · have hk : wholeLines (r :: records) p = 0 := by simp [wholeLines, hline]
      obtain ⟨init, s, after, m, hrec, hm, hread⟩ := hr.torn (torn_line h hline)
      simp only [whole, hk, hread, List.take_zero, List.map_nil, List.nil_append, unended]
      by_cases hnil : init.map String.toList = [] ∧ m = []
      · exact .inl (if_pos hnil)
      · exact .inr ⟨init, s, after, m, by rw [hrec]; rfl, hm, if_neg hnil⟩

theorem parse_torn {records : List (List String)} {p : String} (hne : ∀ r ∈ records, r ≠ [])
    (h : p.toList <+: (text records).toList) :
    let whole := records.take (wholeLines records p.toList)
    parse p = whole
      ∨ ∃ init s after m, records[wholeLines records p.toList]? = some (init ++ s :: after)
        ∧ m.toList <+: s.toList ∧ parse p = whole ++ [init ++ [m]] := by
  intro whole
  unfold parse
  rcases parseFrom_torn hne h with hread | ⟨init, s, after, m, hrec, hm, hread⟩
  · exact .inl (by rw [hread, map_ofList_toList])
  · refine .inr ⟨init, s, after, String.ofList m, hrec, by rwa [String.toList_ofList], ?_⟩
    rw [hread, List.map_append, map_ofList_toList]
    simp [whole, Function.comp_def]

end Lines

end Conformance.Csv
