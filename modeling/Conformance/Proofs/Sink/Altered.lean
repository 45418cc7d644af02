import Conformance.Proofs.Csv.Torn
import Conformance.Proofs.Sink

/-!
# Files of rows that something else altered

What `readRows` makes of the file of a sink (`Written`) once something else has changed it: written
in another form of the same records it reads the same (`parse_rewritten`), a text behind it adds its
own rows or is refused under the number of its first record that is none (`readRows_extended`), and
of a file that breaks off the whole lines are read, and at most the message of the line that broke
is cut short (`readRows_torn`).
-/

namespace Conformance.Sink

section Written

/-- A reset that succeeded, and since then records that succeeded, led to the sink and the files. -/
inductive Written : Sink → FileTree → Prop
  | reset {s : Sink} {t : FileTree} (h : (s.reset t).1 = .ok ()) :
      Written (s.reset t).2.1 (s.reset t).2.2
  | record {s s' : Sink} {t u : FileTree} {r : TestResult} (h : Written s t)
      (hr : s.record r t = .ok (s', u)) : Written s' u

theorem Written.holds {s : Sink} {t : FileTree} (h : Written s t) : s.Holds t := by
  induction h with
  | reset h => exact holds_reset h
  | record _ hr ih => exact (holds_record (FileTree.FoundIn.refl _ _) ih hr).2

/-- Further results can always be recorded. -/
theorem Written.exists_record : ∀ (results : List TestResult) {s : Sink} {t : FileTree},
    Written s t → ∃ s' u, Written s' u ∧ s'.path = s.path ∧ s'.results = s.results ++ results
  | [], s, t, h => ⟨s, t, h, rfl, (List.append_nil _).symm⟩
  | r :: results, s, t, h => by
    obtain ⟨u, hr⟩ := record_of_holds h.holds r
    obtain ⟨s', v, h', hpath, hresults⟩ := exists_record results (h.record hr)
    rw [path_add] at hpath
    rw [results_add, List.append_assoc, List.singleton_append] at hresults
    exact ⟨s', v, h', hpath, hresults⟩

/-- A text that is appended to the file stands behind the text of the results. -/
theorem Written.exists_append {s : Sink} {t : FileTree} (h : Written s t) (x : String) :
    ∃ u, t.appendText s.path x = .ok u ∧ u.readText s.path = .ok (fileText s.results ++ x) := by
  obtain ⟨p, e, hf⟩ := h.holds
  have happend := FileTree.append_of_find hf x.toUTF8
  obtain ⟨q, old, y, hold, hnew⟩ := FileTree.find_append happend
  rw [hf] at hold
  simp only [Except.ok.injEq, Prod.mk.injEq, Entry.file.injEq] at hold
  obtain ⟨rfl, rfl, rfl⟩ := hold
  refine ⟨_, happend, FileTree.readText_of_find (p := p) (x := e) ?_⟩
  rw [hnew]
  simp

/-- Two results, the first of them full of marks and line breaks. -/
def markedResults : List TestResult :=
  [⟨"a,b", "\"x\"\r\ny\r", .fail, ""⟩, ⟨"id", "é", .pass, "say \"ok\" twice"⟩]

theorem exists_written (results : List TestResult) :
    ∃ s t, Written s t ∧ s.path = "rows.csv" ∧ s.results = results := by
  have h : Written ((new "rows.csv").reset .empty).2.1 ((new "rows.csv").reset .empty).2.2 :=
    .reset rfl
  obtain ⟨s, t, h, hpath, hresults⟩ := h.exists_record results
  exact ⟨s, t, h, hpath, hresults⟩

end Written

section Rewritten

/-- Records read the same however they are written; so does the file of a sink that was written anew
in another form, with other quotes, other line ends or without the last one. -/
theorem parse_rewritten {records : List (List String)} {text : String}
    (h : Csv.Renders records text.toList) :
    Csv.parse text = records
      ∧ ∀ s t, Written s t → records = header :: (s.results.map TestResult.row).map Row.fields →
        ∀ path u, u.readText path = .ok text →
          readRows path u = readRows s.path t
            ∧ readRows path u = .ok (s.results.map TestResult.row) := by
  have hparse := Csv.parse_of_renders h
  refine ⟨hparse, fun s t hs hrecords path u hu => ?_⟩
  have hrows : readRows path u = .ok (s.results.map TestResult.row) := by
    rw [readRows_of_readText hu, rowsOf_of_parse path (hparse.trans hrecords), rowsFrom_fields,
      mapError_ok]
  exact ⟨hrows.trans (readRows_of_holds hs.holds).symm, hrows⟩

/-- Quotes without need, carriage returns and no last end. -/
theorem parse_rewritten_marks :
    let text := "\"test_id\",response,\"status\",message\r\n"
      ++ "\"a,b\",\"\"\"x\"\"\r\ny\r\",\"Fail\",\r\nid,\"é\",Pass,\"say \"\"ok\"\" twice\""
    ∃ s t u, Written s t ∧ s.results = markedResults
      ∧ Csv.Renders (header :: (s.results.map TestResult.row).map Row.fields) text.toList
      ∧ u.readText "copy.csv" = .ok text
      ∧ readRows "copy.csv" u = readRows s.path t
      ∧ readRows "copy.csv" u = .ok (markedResults.map TestResult.row) := by
  intro text
  obtain ⟨s, t, hs, -, hresults⟩ := exists_written markedResults
  obtain ⟨u, hwrite⟩ : ∃ u, FileTree.empty.writeText "copy.csv" text = .ok u := ⟨_, rfl⟩
  obtain ⟨p, e, hfind⟩ := FileTree.find_write hwrite
  have hread := FileTree.readText_of_find hfind
  have bare (w : String) (hw : w.toList.any Csv.needsQuotes = false) : Csv.FieldText w w.toList :=
    .bare (by simpa using hw)
  have hheader := Csv.RecordText.more (.quoted (s := "test_id")) (.more (bare "response" rfl)
    (.more (.quoted (s := "status")) (.last (bare "message" rfl))))
  have hfirst := Csv.RecordText.more (.quoted (s := "a,b")) (.more (.quoted (s := "\"x\"\r\ny\r"))
    (.more (.quoted (s := "Fail")) (.last (bare "" rfl))))
  have hsecond := Csv.RecordText.more (bare "id" rfl) (.more (.quoted (s := "é"))
    (.more (bare "Pass" rfl) (.last (.quoted (s := "say \"ok\" twice")))))
  have hrender : Csv.Renders (header :: (s.results.map TestResult.row).map Row.fields)
      text.toList := by
    rw [hresults]
    refine Eq.mp (congrArg (Csv.Renders _) ?_)
      (.line hheader .returnFeed (.line hfirst .returnFeed (.unended hsecond (by decide))))
    decide +kernel
  obtain ⟨-, hrewritten⟩ := parse_rewritten hrender
  obtain ⟨hsame, hrows⟩ := hrewritten s t hs rfl "copy.csv" u hread
  exact ⟨s, t, u, hs, hresults, hrender, hread, hsame, hresults ▸ hrows⟩

end Rewritten

section Extended

/-- Four fields, of which the third is the word for a status. -/
def IsRow (record : List String) : Prop :=
  record.length = 4 ∧ (record[2]? = some "Pass" ∨ record[2]? = some "Fail")

/-- What is wrong with a record that is no row. -/
def rowFault (number : Nat) (record : List String) : SinkFault :=
  if record.length = 4 then .status number (record.getD 2 "")
  else .fieldCount number record.length

theorem IsRow.exists_row {record : List String} (h : IsRow record) :
    ∃ r : Row, r.fields = record := by
  obtain ⟨hlength, hstatus⟩ := h
  match record, hlength with
  | [testId, response, status, message], _ =>
    rcases hstatus with hs | hs
    · exact ⟨⟨testId, response, .pass, message⟩, by simp_all [Row.fields, Status.name]⟩
    · exact ⟨⟨testId, response, .fail, message⟩, by simp_all [Row.fields, Status.name]⟩

theorem exists_rows : ∀ {records : List (List String)}, (∀ record ∈ records, IsRow record) →
    ∃ rows : List Row, rows.map Row.fields = records
  | [], _ => ⟨[], rfl⟩
  | record :: records, h => by
    obtain ⟨r, hr⟩ := (h record List.mem_cons_self).exists_row
    obtain ⟨rows, hrows⟩ := exists_rows fun r' hr' => h r' (List.mem_cons_of_mem record hr')
    exact ⟨r :: rows, by rw [List.map_cons, hr, hrows]⟩

theorem rowOf_of_not_isRow {record : List String} (h : ¬ IsRow record) (n : Nat) :
    rowOf n record = .error (rowFault n record) := by
  unfold rowOf
  split
  · rename_i testId response status message
    have hne : Status.ofName? status = none := by
      simp [IsRow] at h
      simp [Status.ofName?, h]
    rw [hne]
    rfl
  · rename_i hshape
    have hlength : record.length ≠ 4 := by
      intro hlength
      match record, hlength with
      | [a, b, c, d], _ => exact hshape a b c d rfl
    rw [rowFault, if_neg hlength]

/-- A text behind the file of a sink adds its rows to those of the results; or it is refused with
the number that its first record without the form of a row has behind them. -/
theorem readRows_extended {s : Sink} {t : FileTree} (h : Written s t) (x : String) :
    ∃ u, t.appendText s.path x = .ok u
      ∧ ((∀ record ∈ Csv.parse x, IsRow record) →
        ∃ rows, rows.map Row.fields = Csv.parse x
          ∧ readRows s.path u = .ok (s.results.map TestResult.row ++ rows))
      ∧ ∀ before bad after, Csv.parse x = before ++ bad :: after →
        (∀ record ∈ before, IsRow record) → ¬ IsRow bad →
        readRows s.path u
          = .error (.sink (rowFault (s.results.length + (before.length + 1)) bad)) := by
  obtain ⟨u, hu, htext⟩ := h.exists_append x
  have hread := readRows_of_readText htext
  rw [rowsOf_fileText_append] at hread
  refine ⟨u, hu, fun hrows => ?_, fun before bad after hx hbefore hbad => ?_⟩
  · obtain ⟨rows, hrows⟩ := exists_rows hrows
    refine ⟨rows, hrows, ?_⟩
    rw [hread, ← hrows, rowsFrom_fields]
    rfl
  · obtain ⟨rows, rfl⟩ := exists_rows hbefore
    have hn : 1 + s.results.length + rows.length
        = s.results.length + ((rows.map Row.fields).length + 1) := by
      rw [List.length_map]
      omega
    rw [hread, hx, rowsFrom_append, rowsFrom, rowOf_of_not_isRow hbad, hn]
    rfl

/-- A row by hand behind the results, and one that is none. -/
theorem readRows_extended_marks :
    ∃ s t u v, Written s t ∧ s.results = markedResults
      ∧ t.appendText s.path "late,,Pass,\"by hand\"\r\n" = .ok u
      ∧ (∃ rows, rows.map Row.fields = [["late", "", "Pass", "by hand"]]
        ∧ readRows s.path u = .ok (markedResults.map TestResult.row ++ rows))
      ∧ t.appendText s.path "late,,Pass,by hand\nlate,,pass,\"by hand" = .ok v
      ∧ readRows s.path v = .error (.sink (.status 4 "pass")) := by
  obtain ⟨s, t, hs, -, hresults⟩ := exists_written markedResults
  have hgood : Csv.parse "late,,Pass,\"by hand\"\r\n" = [["late", "", "Pass", "by hand"]] := by
    decide +kernel
  have hbad : Csv.parse "late,,Pass,by hand\nlate,,pass,\"by hand"
      = [["late", "", "Pass", "by hand"], ["late", "", "pass", "by hand"]] := by
    decide +kernel
  have hrow : IsRow ["late", "", "Pass", "by hand"] := ⟨rfl, .inl rfl⟩
  obtain ⟨u, hu, hrows, -⟩ := readRows_extended hs "late,,Pass,\"by hand\"\r\n"
  obtain ⟨v, hv, -, hfault⟩ := readRows_extended hs "late,,Pass,by hand\nlate,,pass,\"by hand"
  rw [hgood] at hrows
  refine ⟨s, t, u, v, hs, hresults, hu, hresults ▸ hrows (by simpa using hrow), hv, ?_⟩
  have hread := hfault [["late", "", "Pass", "by hand"]] ["late", "", "pass", "by hand"] [] hbad
    (by simpa using hrow) (by simp [IsRow])
  rw [hresults] at hread
  exact hread

end Extended

section Torn

/-- A record with the first fields of a row and a start of the next is a row with a part of the
message, or it has too few fields. -/
theorem rowOf_torn {r : Row} {init after : List String} {field m : String}
    (h : r.fields = init ++ field :: after) (n : Nat) :
    field = r.message ∧ rowOf n (init ++ [m]) = .ok { r with message := m }
      ∨ ∃ count, rowOf n (init ++ [m]) = .error (.fieldCount n count) := by
  match init, h with
  | [], _ => exact .inr ⟨_, rfl⟩
  | [_], _ => exact .inr ⟨_, rfl⟩
  | [_, _], _ => exact .inr ⟨_, rfl⟩
  | [a, b, c], h =>
    simp only [Row.fields, List.cons_append, List.nil_append, List.cons.injEq] at h
    obtain ⟨rfl, rfl, rfl, rfl, -⟩ := h
    refine .inl ⟨rfl, ?_⟩
    exact rowOf_fields n { r with message := m }
  | a :: b :: c :: d :: init, h => simp [Row.fields] at h

/-- Of a file that breaks off behind its header the rows of the whole lines are read, and of the
line that breaks off nothing, or the row with a part of its message, or it is refused under its
number. -/
theorem readRows_torn {s : Sink} {t u : FileTree} {path q lost : String} (h : Written s t)
    (htext : t.readText s.path = .ok (Csv.line header ++ q ++ lost))
    (htorn : u.readText path = .ok (Csv.line header ++ q)) :
    let rows := s.results.map TestResult.row
    let k := Csv.wholeLines (rows.map Row.fields) q.toList
    readRows path u = .ok (rows.take k)
      ∨ (∃ r m, rows[k]? = some r ∧ m.toList <+: r.message.toList
        ∧ readRows path u = .ok (rows.take k ++ [{ r with message := m }]))
      ∨ ∃ count, k < rows.length
        ∧ readRows path u = .error (.sink (.fieldCount (k + 1) count)) := by
  intro rows k
  have hq : q.toList <+: (Csv.text (rows.map Row.fields)).toList := by
    have hfile := (Except.ok.inj (htext.symm.trans (readText_of_holds h.holds))).trans
      (fileText_eq s.results)
    rw [String.append_assoc] at hfile
    exact ⟨lost.toList, by rw [← String.toList_append, (String.append_right_inj _).1 hfile]⟩
  have hne : ∀ f ∈ rows.map Row.fields, f ≠ [] := by simp [Row.fields]
  have hparse : Csv.parse (Csv.line header ++ q) = header :: Csv.parse q :=
    Csv.parse_line_append (by simp [header]) q
  have hread := readRows_of_readText htorn
  rw [rowsOf_of_parse path hparse] at hread
  rcases Csv.parse_torn hne hq with hwhole | ⟨init, field, after, m, hrec, hm, hrest⟩
  · rw [hwhole, ← List.map_take, rowsFrom_fields] at hread
    exact .inl hread
  · rw [List.getElem?_map] at hrec
    obtain ⟨r, hr, hfields⟩ := Option.map_eq_some_iff.1 hrec
    have hk : k < rows.length := (List.getElem?_eq_some_iff.1 hr).1
    have hn : 1 + (rows.take k).length = k + 1 := by
      rw [List.length_take, Nat.min_eq_left (Nat.le_of_lt hk), Nat.add_comm]
    rw [hrest, ← List.map_take, rowsFrom_append, hn, rowsFrom] at hread
    rcases rowOf_torn (m := m) hfields (k + 1) with ⟨rfl, hrow⟩ | ⟨count, hrow⟩
    · rw [hrow] at hread
      exact .inr (.inl ⟨r, m, hr, hm, hread⟩)
    · rw [hrow] at hread
      exact .inr (.inr ⟨count, hk, hread⟩)

/-- The file breaks off between the two quotes that stand for one. -/
theorem readRows_torn_quotes :
    let q := "\"a,b\",\"\"\"x\"\"\r\ny\r\",Fail,\nid,é,Pass,\"say \""
    ∃ s t u, Written s t ∧ s.results = markedResults
      ∧ t.readText s.path = .ok (Csv.line header ++ q ++ "\"ok\"\" twice\"\n")
      ∧ u.readText "torn.csv" = .ok (Csv.line header ++ q)
      ∧ Csv.wholeLines ((markedResults.map TestResult.row).map Row.fields) q.toList = 1
      ∧ (readRows "torn.csv" u = .ok ((markedResults.map TestResult.row).take 1)
        ∨ (∃ r m, (markedResults.map TestResult.row)[1]? = some r ∧ m.toList <+: r.message.toList
          ∧ readRows "torn.csv" u
            = .ok ((markedResults.map TestResult.row).take 1 ++ [{ r with message := m }]))
        ∨ ∃ count, readRows "torn.csv" u = .error (.sink (.fieldCount 2 count))) := by
  intro q
  obtain ⟨s, t, hs, -, hresults⟩ := exists_written markedResults
  have htext : t.readText s.path = .ok (Csv.line header ++ q ++ "\"ok\"\" twice\"\n") := by
    rw [readText_of_holds hs.holds, hresults]
    decide +kernel
  obtain ⟨u, hwrite⟩ : ∃ u, FileTree.empty.writeText "torn.csv" (Csv.line header ++ q) = .ok u :=
    ⟨_, rfl⟩
  obtain ⟨p, e, hfind⟩ := FileTree.find_write hwrite
  have htorn := FileTree.readText_of_find hfind
  have hk : Csv.wholeLines ((markedResults.map TestResult.row).map Row.fields) q.toList = 1 := by
    decide +kernel
  have h := readRows_torn hs htext htorn
  rw [hresults] at h
  simp only [hk] at h
  refine ⟨s, t, u, hs, hresults, htext, htorn, hk, ?_⟩
  rcases h with h | h | ⟨count, -, h⟩
  · exact .inl h
  · exact .inr (.inl h)
  · exact .inr (.inr ⟨count, h⟩)

end Torn

end Conformance.Sink
