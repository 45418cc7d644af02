import Conformance.Proofs.Csv

/-!
# The ways to write records

A text need not come from `line` to be read: a field may stand between quotes without need, a record
may end in a carriage return and a line feed, and the last one may go without an end. `Renders` says
what such a text looks like, and each of them reads as its records (`parse_of_renders`). What `line`
writes is one of them and leaves nothing open at its end, so a text of lines reads as its records
and then as whatever follows it reads (`parse_text_append`).
-/

namespace Conformance.Csv

section Forms

/-- The ways to write a field. -/
inductive FieldText (s : String) : List Char → Prop
  /-- Between quotes, with each of its own quotes twice. -/
  | quoted : FieldText s ('"' :: doubleQuotes s.toList ++ ['"'])
  /-- As it is, if nothing in it needs quotes. -/
  | bare (h : ∀ c ∈ s.toList, needsQuotes c = false) : FieldText s s.toList

/-- The ways to write the fields of a record, of which there is at least one. -/
inductive RecordText : List String → List Char → Prop
  | last {s : String} {t : List Char} (h : FieldText s t) : RecordText [s] t
  | more {s : String} {r : List String} {t u : List Char} (h : FieldText s t)
      (hr : RecordText r u) : RecordText (s :: r) (t ++ ',' :: u)

/-- The ways to end a record. -/
inductive LineEnd : List Char → Prop
  | feed : LineEnd ['\n']
  | returnFeed : LineEnd ['\r', '\n']

/-- The ways to write records. The last end may be missing, but not behind a single empty field, of
which nothing might be left. -/
inductive Renders : List (List String) → List Char → Prop
  | nil : Renders [] []
  | line {r : List String} {records : List (List String)} {t e u : List Char}
      (h : RecordText r t) (he : LineEnd e) (hs : Renders records u) :
      Renders (r :: records) (t ++ (e ++ u))
  | unended {r : List String} {t : List Char} (h : RecordText r t) (hr : r ≠ [""]) : Renders [r] t

end Forms

section Reading

variable {rest : List Char}

/-- A field reads as its characters in either form, if no quote follows it. -/
theorem parseFrom_fieldText {s : String} {t : List Char} (h : FieldText s t)
    (fields : List (List Char)) (hrest : rest.head? ≠ some '"') :
    parseFrom false [] fields (t ++ rest) = parseFrom false s.toList.reverse fields rest := by
  cases h with
  | quoted =>
    rw [List.cons_append, List.cons_append, List.append_assoc, parseFrom_open,
      parseFrom_doubleQuotes, List.singleton_append, parseFrom_close _ _ hrest, List.append_nil]
  | bare hs => rw [parseFrom_bare [] hs, List.append_nil]

/-- The fields of a record read as the fields but the last, and the last is the text read so far. -/
theorem parseFrom_recordText {r : List String} {t : List Char} (h : RecordText r t)
    (hrest : rest.head? ≠ some '"') :
    ∃ init last, r = init ++ [last] ∧ ∀ fields,
      parseFrom false [] fields (t ++ rest)
        = parseFrom false last.toList.reverse (fields ++ init.map String.toList) rest := by
  induction h with
  | @last s t h =>
    refine ⟨[], s, rfl, fun fields => ?_⟩
    rw [parseFrom_fieldText h fields hrest, List.map_nil, List.append_nil]
  | @more s r t u h _ ih =>
    obtain ⟨init, last, rfl, ih⟩ := ih
    refine ⟨s :: init, last, rfl, fun fields => ?_⟩
    rw [List.append_assoc, List.cons_append, parseFrom_fieldText h fields (by simp),
      parseFrom_comma, ih]
    simp

theorem parseFrom_lineEnd {e : List Char} (he : LineEnd e) (done : List Char)
    (fields : List (List Char)) :
    parseFrom false done fields (e ++ rest)
      = (fields ++ [done.reverse]) :: parseFrom false [] [] rest := by
  cases he with
  | feed => exact parseFrom_newline done fields
  | returnFeed =>
    rw [List.cons_append, List.singleton_append, parseFrom_return, parseFrom_newline]

/-- A record and its end read as one record, and the rest is read from the start. -/
theorem parseFrom_record {r : List String} {t e : List Char} (h : RecordText r t)
    (he : LineEnd e) :
    parseFrom false [] [] (t ++ (e ++ rest))
      = r.map String.toList :: parseFrom false [] [] rest := by
  have hhead : (e ++ rest).head? ≠ some '"' := by cases he <;> simp
  obtain ⟨init, last, rfl, hread⟩ := parseFrom_recordText h hhead
  rw [hread, parseFrom_lineEnd he]
  simp

theorem parseFrom_unended {r : List String} {t : List Char} (h : RecordText r t) (hr : r ≠ [""]) :
    parseFrom false [] [] t = [r.map String.toList] := by
  have hhead : ([] : List Char).head? ≠ some '"' := by simp
  obtain ⟨init, last, rfl, hread⟩ := parseFrom_recordText h hhead
  have hne : ¬ (init = [] ∧ last = "") := by
    rintro ⟨rfl, rfl⟩
    exact hr rfl
  rw [← List.append_nil t, hread, parseFrom_nil]
  simpa [unended] using hne

theorem parseFrom_of_renders {records : List (List String)} {t : List Char}
    (h : Renders records t) : parseFrom false [] [] t = records.map (·.map String.toList) := by
  induction h with
  | nil => rfl
  | line h he _ ih => rw [parseFrom_record h he, ih, List.map_cons]
  | unended h hr => rw [parseFrom_unended h hr, List.map_singleton]

theorem map_ofList_toList (records : List (List String)) :
    (records.map (·.map String.toList)).map (·.map String.ofList) = records := by
  simp [Function.comp_def]

/-- However records are written, they are read. -/
theorem parse_of_renders {records : List (List String)} {s : String}
    (h : Renders records s.toList) : parse s = records := by
  unfold parse
  rw [parseFrom_of_renders h, map_ofList_toList]

end Reading

section Lines

theorem fieldText_field (s : String) : FieldText s (field s) := by
  unfold field
  by_cases hs : s.toList.any needsQuotes = true
  · rw [if_pos hs]
    exact .quoted
  · rw [if_neg hs]
    exact .bare (by simpa using hs)

theorem recordText_fields : ∀ {r : List String}, r ≠ [] →
    RecordText r ([','].intercalate (r.map field))
  | [], h => absurd rfl h
  | [s], _ => by
    rw [List.map_singleton, List.intercalate_singleton]
    exact .last (fieldText_field s)
  | s :: s' :: r, _ => by
    rw [List.map_cons, List.map_cons, List.intercalate_cons_cons, List.append_assoc,
      List.singleton_append, ← List.map_cons]
    exact .more (fieldText_field s) (recordText_fields (by simp))

theorem toList_line (r : List String) :
    (line r).toList = [','].intercalate (r.map field) ++ ['\n'] := String.toList_ofList

theorem parse_line_append {r : List String} (hr : r ≠ []) (s : String) :
    parse (line r ++ s) = r :: parse s := by
  unfold parse
  rw [String.toList_append, toList_line, List.append_assoc,
    parseFrom_record (recordText_fields hr) .feed]
  simp

/-- Lines in front of a text, whatever it is, add their records to its own. -/
theorem parse_text_append : ∀ {records : List (List String)}, (∀ r ∈ records, r ≠ []) →
    ∀ s : String, parse (text records ++ s) = records ++ parse s
  | [], _, s => by simp [text]
  | r :: records, h, s => by
    rw [text_cons, String.append_assoc, parse_line_append (h r List.mem_cons_self),
      parse_text_append fun r' hr' => h r' (List.mem_cons_of_mem r hr')]
    rfl

end Lines

end Conformance.Csv
