import Conformance.Proofs.Csv.Rendering
import Conformance.Proofs.FileTree
import Conformance.Sink

/-!
# A sink and its file

In a consistent sink the two lists are the ids of its results by status, and `record` keeps it so
(`consistent_add`). A file that a sink holds is the header and a line for each result: a reset that
succeeds leaves such a file (`holds_reset`), `record` keeps it in step with the results
(`holds_record`), and it reads back as their rows (`readRows_of_holds`), whatever characters they
are made of.
-/

namespace Conformance.Sink

section Lists

/-- The ids of the results with a status. -/
def idsOf (status : Status) (results : List TestResult) : List String :=
  (results.filter (·.status = status)).map (·.testId)

/-- The lists of ids are those of the results. -/
structure Consistent (s : Sink) : Prop where
  passed : s.passed = idsOf .pass s.results
  failed : s.failed = idsOf .fail s.results

theorem length_idsOf : ∀ results : List TestResult,
    (idsOf .pass results).length + (idsOf .fail results).length = results.length
  | [] => rfl
  | r :: rest => by
    have ih := length_idsOf rest
    rcases hr : r.status <;> simp [idsOf, hr] at ih ⊢ <;> omega

theorem Consistent.executed_eq {s : Sink} (h : s.Consistent) : s.executed = s.results.length := by
  unfold executed
  rw [h.passed, h.failed, length_idsOf]

theorem consistent_new (path : String) : (new path).Consistent := ⟨rfl, rfl⟩

theorem consistent_cleared (s : Sink) : s.cleared.Consistent := ⟨rfl, rfl⟩

theorem results_add (s : Sink) (r : TestResult) : (s.add r).results = s.results ++ [r] := by
  unfold add
  split <;> rfl

theorem path_add (s : Sink) (r : TestResult) : (s.add r).path = s.path := by
  unfold add
  split <;> rfl

theorem idsOf_concat (status : Status) (results : List TestResult) (r : TestResult) :
    idsOf status (results ++ [r]) = idsOf status results ++ idsOf status [r] := by
  simp [idsOf]

theorem lists_add (s : Sink) (r : TestResult) :
    (s.add r).passed = s.passed ++ idsOf .pass [r]
      ∧ (s.add r).failed = s.failed ++ idsOf .fail [r] := by
  rcases hr : r.status with _ | _ <;> simp [add, idsOf, hr]

theorem consistent_add {s : Sink} (h : s.Consistent) (r : TestResult) : (s.add r).Consistent := by
  obtain ⟨hp, hf⟩ := lists_add s r
  constructor
  · rw [hp, results_add, idsOf_concat, h.passed]
  · rw [hf, results_add, idsOf_concat, h.failed]

end Lists

section File

variable {s s' : Sink} {t u : FileTree}

/-- The text of a file with results. -/
def fileText (results : List TestResult) : String :=
  Csv.text (header :: results.map fun r => r.row.fields)

theorem fileText_eq (results : List TestResult) : fileText results
    = Csv.line header ++ Csv.text ((results.map TestResult.row).map Row.fields) := by
  unfold fileText
  rw [Csv.text_cons, List.map_map]
  rfl

theorem fileText_nil : fileText [] = Csv.line header := by
  simp [fileText, Csv.text]

theorem fileText_concat (results : List TestResult) (r : TestResult) :
    fileText (results ++ [r]) = fileText results ++ Csv.line r.row.fields := by
  unfold fileText
  rw [List.map_append, List.map_singleton, ← List.cons_append, Csv.text_concat]

/-- The path of the sink finds a file with the text of its results. -/
def Holds (s : Sink) (t : FileTree) : Prop :=
  ∃ p x, t.find s.path = .ok (p, .file (fileText s.results).toUTF8 x)

theorem rowOf_fields (n : Nat) (r : Row) : rowOf n r.fields = .ok r := by
  simp [rowOf, Row.fields, Status.ofName?_name]

/-- Rows in front of other records are read, and count in the numbers of these. -/
theorem rowsFrom_append : ∀ (n : Nat) (rows : List Row) (rest : List (List String)),
    rowsFrom n (rows.map Row.fields ++ rest) = (rowsFrom (n + rows.length) rest).map (rows ++ ·)
  | n, [], rest => by rcases h : rowsFrom n rest <;> simp [h, Except.map]
  | n, r :: rows, rest => by
    have ih := rowsFrom_append (n + 1) rows rest
    have hn : n + (r :: rows).length = n + 1 + rows.length := by
      rw [List.length_cons]
      omega
    rw [List.map_cons, List.cons_append, rowsFrom, rowOf_fields, ok_bind, ih, hn]
    rcases rowsFrom (n + 1 + rows.length) rest with e | l <;> simp [Except.map]

theorem rowsFrom_fields (n : Nat) (rows : List Row) :
    rowsFrom n (rows.map Row.fields) = .ok rows := by
  have h := rowsFrom_append n rows []
  rw [List.append_nil] at h
  rw [h, rowsFrom]
  exact congrArg Except.ok (List.append_nil rows)

theorem rowsOf_of_parse {text : String} {records : List (List String)} (path : String)
    (h : Csv.parse text = header :: records) : rowsOf path text = rowsFrom 1 records := by
  unfold rowsOf
  rw [h]
  exact if_pos rfl

theorem parse_fileText_append (results : List TestResult) (x : String) :
    Csv.parse (fileText results ++ x)
      = header :: ((results.map TestResult.row).map Row.fields ++ Csv.parse x) := by
  have hne : ∀ f ∈ (results.map TestResult.row).map Row.fields, f ≠ [] := by simp [Row.fields]
  rw [fileText_eq, String.append_assoc, Csv.parse_line_append (by simp [header]),
    Csv.parse_text_append hne]

/-- A text behind the file of some results reads as their rows and then as its own records, with
numbers that follow theirs. -/
theorem rowsOf_fileText_append (path : String) (results : List TestResult) (x : String) :
    rowsOf path (fileText results ++ x)
      = (rowsFrom (1 + results.length) (Csv.parse x)).map (results.map TestResult.row ++ ·) := by
  rw [rowsOf_of_parse path (parse_fileText_append results x), rowsFrom_append, List.length_map]

/-- The text of the results reads as their rows. -/
theorem rowsOf_fileText (path : String) (results : List TestResult) :
    rowsOf path (fileText results) = .ok (results.map TestResult.row) := by
  rw [← String.append_empty (s := fileText results), rowsOf_fileText_append]
  exact congrArg Except.ok (List.append_nil (results.map TestResult.row))

/-- A text whose first line is a single field is no text of results. -/
theorem rowsOf_of_line (path : String) {line rest : List Char}
    (h : line.any Csv.needsQuotes = false) :
    rowsOf path (String.ofList (line ++ '\n' :: rest))
      = .error (.header path [String.ofList line]) := by
  unfold rowsOf Csv.parse
  rw [String.toList_ofList, Csv.parseFrom_bare [] (by simpa using h), Csv.parseFrom_newline]
  simp [header]

theorem readRows_of_readText {path text : String} (h : t.readText path = .ok text) :
    readRows path t = (rowsOf path text).mapError .sink := by
  unfold readRows
  rw [h, mapError_ok, ok_bind]

theorem readText_of_holds (h : s.Holds t) : t.readText s.path = .ok (fileText s.results) := by
  obtain ⟨p, x, hf⟩ := h
  exact FileTree.readText_of_find hf

theorem readRows_of_holds (h : s.Holds t) :
    readRows s.path t = .ok (s.results.map TestResult.row) := by
  rw [readRows_of_readText (readText_of_holds h), rowsOf_fileText, mapError_ok]

theorem sink_reset (s : Sink) (t : FileTree) : (s.reset t).2.1 = s.cleared := rfl

/-- A reset makes directories, and then it writes the header or fails. -/
theorem reset_cases (s : Sink) (t : FileTree) :
    let made := (t.makeDirectories ((Path.parent? s.path).getD "")).2
    (∃ e, (s.reset t).1 = .error e ∧ (s.reset t).2.2 = made)
      ∨ (s.reset t).1 = .ok () ∧ made.writeText s.path (Csv.line header) = .ok (s.reset t).2.2 := by
  unfold reset start
  rcases t.makeDirectories ((Path.parent? s.path).getD "") with ⟨e | _, u⟩
  · exact .inl ⟨.file e, rfl, rfl⟩
  · rcases hw : u.writeText s.path (Csv.line header) with e | v <;> simp only [hw]
    · exact .inl ⟨.file e, rfl, trivial⟩
    · exact .inr ⟨rfl, trivial⟩

/-- A reset that succeeds leaves a file with the header only. -/
theorem holds_reset (h : (s.reset t).1 = .ok ()) : s.cleared.Holds (s.reset t).2.2 := by
  rcases reset_cases s t with ⟨e, he, -⟩ | ⟨-, hw⟩
  · simp [he] at h
  · unfold Holds cleared
    rw [fileText_nil]
    exact FileTree.find_write hw

/-- A result that is stored is added, and one that is not changes neither lists nor files. -/
theorem store_cases (s : Sink) (r : TestResult) (t : FileTree) :
    (∃ e, s.store r t = (.error e, s, t) ∧ s.record r t = .error e)
      ∨ ∃ u, s.store r t = (.ok (), s.add r, u) ∧ s.record r t = .ok (s.add r, u)
        ∧ t.appendText s.path (Csv.line r.row.fields) = .ok u := by
  unfold record store
  rcases t.appendText s.path (Csv.line r.row.fields) with e | u
  · exact .inl ⟨.file e, rfl, rfl⟩
  · exact .inr ⟨u, rfl, rfl, rfl⟩

theorem store_of_record_error {r : TestResult} {e : Failure} (h : s.record r t = .error e) :
    s.store r t = (.error e, s, t) := by
  rcases s.store_cases r t with ⟨e', hstore, hr⟩ | ⟨u, -, hr, -⟩
  · rw [hstore, Except.error.inj (hr.symm.trans h)]
  · cases hr.symm.trans h

theorem store_of_record {r : TestResult} (h : s.record r t = .ok (s', u)) :
    s.store r t = (.ok (), s', u) := by
  rcases s.store_cases r t with ⟨e, -, hr⟩ | ⟨v, hstore, hr, -⟩
  · cases hr.symm.trans h
  · rw [hstore, Except.ok.inj (hr.symm.trans h)]

theorem record_ok {r : TestResult} (h : s.record r t = .ok (s', u)) :
    s' = s.add r ∧ t.appendText s.path (Csv.line r.row.fields) = .ok u := by
  rcases s.store_cases r t with ⟨e, -, hr⟩ | ⟨v, -, hr, ha⟩
  · cases hr.symm.trans h
  · obtain ⟨rfl, rfl⟩ := Prod.mk.inj (Except.ok.inj (hr.symm.trans h))
    exact ⟨rfl, ha⟩

/-- A record that succeeds adds its line, also in another tree than the one with the text of the
results, as long as the path finds no other file there. -/
theorem holds_record {v : FileTree} {r : TestResult} (hw : t.FoundIn s.path v) (hv : s.Holds v)
    (h : s.record r t = .ok (s', u)) : s' = s.add r ∧ s'.Holds u := by
  obtain ⟨rfl, ha⟩ := record_ok h
  obtain ⟨p, x, hf⟩ := hv
  obtain ⟨q, old, y, hq, hu⟩ := FileTree.find_append ha
  have hold : old = (fileText s.results).toUTF8 := by
    have := hf.symm.trans (hw _ _ hq)
    simp only [Except.ok.injEq, Prod.mk.injEq, Entry.file.injEq] at this
    exact this.2.1.symm
  refine ⟨rfl, q, y, ?_⟩
  rw [path_add, results_add, fileText_concat, hu, hold]
  simp

/-- The path finds a file, whatever it holds. -/
def Ready (s : Sink) (t : FileTree) : Prop := ∃ p old x, t.find s.path = .ok (p, .file old x)

theorem Holds.ready (h : s.Holds t) : s.Ready t := by
  obtain ⟨p, x, hf⟩ := h
  exact ⟨p, _, x, hf⟩

/-- Where the file is there, a record succeeds and leaves it there. -/
theorem record_of_ready (h : s.Ready t) (r : TestResult) :
    ∃ u, s.record r t = .ok (s.add r, u) ∧ (s.add r).Ready u := by
  obtain ⟨p, old, x, hf⟩ := h
  have ha := FileTree.append_of_find hf (Csv.line r.row.fields).toUTF8
  obtain ⟨q, _, y, -, hu⟩ := FileTree.find_append ha
  refine ⟨_, ?_, q, _, y, (path_add s r).symm ▸ hu⟩
  unfold record store FileTree.appendText
  rw [ha]

/-- Where it is not, every record fails for one reason. -/
theorem record_of_not_ready (h : ¬ s.Ready t) :
    ∃ e, ∀ r : TestResult, s.record r t = .error e := by
  obtain ⟨e, he⟩ := FileTree.append_of_not_found fun p old x hf => h ⟨p, old, x, hf⟩
  refine ⟨.file e, fun r => ?_⟩
  unfold record store FileTree.appendText
  rw [he]

theorem record_of_holds (h : s.Holds t) (r : TestResult) :
    ∃ u, s.record r t = .ok (s.add r, u) := by
  obtain ⟨u, hu, -⟩ := record_of_ready h.ready r
  exact ⟨u, hu⟩

end File

end Conformance.Sink
