import Conformance.Proofs.Containment

/-!
# Whether the files of a run persist

Page and summary never stand at one place, and both are written when the sink is complete. So after
a run that succeeded its page and its summary are there, and the rows of its sink exactly if the
sink stands elsewhere (`run_keeps_rows_iff`): a page and a summary that took its place begin with a
line of a single field, and no text of results does (`rowsOf_page`, `rowsOf_summaryText`).
-/

namespace Conformance

namespace Sink

variable (path : String) (r : RunReport)

theorem rowsOf_page : rowsOf path r.page = .error (.header path ["<!doctype html>"]) := by
  obtain ⟨rest, hpage⟩ : ∃ rest,
      r.page = String.ofList ("<!doctype html>".toList ++ '\n' :: rest) := ⟨_, rfl⟩
  rw [hpage, rowsOf_of_line path (by decide), String.ofList_toList]

theorem rowsOf_summaryText : rowsOf path r.summaryText = .error (.header path ["\x7b"]) := by
  obtain ⟨rest, htext⟩ : ∃ rest, r.summaryText = String.ofList (['\x7b'] ++ '\n' :: rest) :=
    ⟨_, rfl⟩
  rw [htext, rowsOf_of_line path (by decide)]

end Sink

namespace Report

variable {t u : FileTree} {dir : String}

theorem find_writeInto {name text path other : String} {p : Place} {old : ByteArray} {x : Bool}
    (h : writeInto dir name text t = (.ok path, u)) (hf : t.find other = .ok (p, .file old x)) :
    u.home = t.home ∧ ∃ y, u.find other = .ok (p,
      .file (if FileTree.place t.home path = FileTree.place t.home other then text.toUTF8 else old)
        y) := by
  obtain ⟨-, v, hw, hv⟩ := writeInto_ok h
  rw [hw.home]
  exact ⟨FileTree.home_write hv, FileTree.find_write_other hv (hw.find hf)⟩

/-- After a report was written, the path of the sink finds the summary or the page if one of them
stands at its place, and otherwise what it found before. -/
theorem render_holds {s : Sink} {buildName : String} {started : Clock} {paths : Paths} {log : Log}
    (h : render s dir buildName started t = (.ok paths, u, log)) (hs : s.Holds t) :
    let report : RunReport :=
      ⟨buildName, started, s.results.map TestResult.row, s.passed, s.failed⟩
    let place := FileTree.place u.home
    paths = ⟨Path.join dir report.pageName, Path.join dir RunReport.summaryName⟩
      ∧ u.readText paths.page = .ok report.page
      ∧ u.readText paths.summary = .ok report.summaryText
      ∧ u.readText s.path = .ok (if place paths.summary = place s.path then report.summaryText
        else if place paths.page = place s.path then report.page else Sink.fileText s.results) := by
  intro report place
  have hreport : collect s buildName started t = .ok report := by
    unfold collect
    rw [Sink.readRows_of_holds hs, ok_bind, pure_eq_ok]
  obtain ⟨r, v, hr, hpage, hsummary⟩ := render_stages h
  obtain ⟨r', hr', htext, htext'⟩ := render_ok h
  obtain rfl : report = r := Except.ok.inj (hreport.symm.trans hr)
  obtain rfl : report = r' := Except.ok.inj (hreport.symm.trans hr')
  obtain ⟨p, x, hf⟩ := hs
  -- the page is written first, so where both took the place of the sink the summary is found
  obtain ⟨hhome, y, hfv⟩ := find_writeInto hpage hf
  obtain ⟨hhome', z, hfu⟩ := find_writeInto hsummary hfv
  refine ⟨?_, htext, htext', ?_⟩
  · rw [← (writeInto_ok hpage).1, ← (writeInto_ok hsummary).1]
  · refine FileTree.readText_of_find (p := p) (x := z) ?_
    rw [hfu, ← hhome, ← hhome', apply_ite String.toUTF8, apply_ite String.toUTF8]

end Report

namespace Runner

variable {σ : Type} {r : Runner σ}

/-- What a run that succeeded leaves at the paths of its files. -/
theorem files_of_ok (ht : r.transport.OnlyRemovesAt r.config.csvPath) {targets : List String}
    {started : Clock} {s s' : Session σ} {o : Outcome}
    (h : r.run targets started s = (.ok o, s')) :
    let report : RunReport :=
      ⟨r.config.buildName, started, o.results.map TestResult.row, o.passed, o.failed⟩
    let place := FileTree.place s'.files.home
    o.report = ⟨r.config.pagePath started, r.config.summaryPath⟩
      ∧ s'.files.readText o.report.page = .ok report.page
      ∧ s'.files.readText o.report.summary = .ok report.summaryText
      ∧ s'.files.readText r.config.csvPath
        = .ok (if place o.report.summary = place r.config.csvPath then report.summaryText
          else if place o.report.page = place r.config.csvPath then report.page
          else Sink.fileText o.results) := by
  obtain ⟨p, sink, s₂, log, hr, hw, ho, -⟩ := recorded_of_ok h
  obtain ⟨hpaths, hpage, hsummary, hsink⟩ := Report.render_holds hw (hr.holds ht)
  rw [hr.path] at hsink
  obtain ⟨buildName, time, passed, failed, results, paths⟩ := o
  simp only [Outcome.mk.injEq] at ho
  obtain ⟨-, -, rfl, rfl, rfl, -⟩ := ho
  refine ⟨hpaths.trans ?_, hpage, hsummary, hsink⟩
  simp only [Config.pagePath, Config.summaryPath, Config.pageName, RunReport.pageName]

/-- After a run that succeeded, its page and its summary show what it recorded. The rows of its sink
are there too exactly if the sink does not stand at the place of one of them; where the setting for
the sink leads below the output directory, that is told by its names. -/
theorem run_keeps_rows_iff (hc : r.config.check = .ok ())
    (ht : r.transport.OnlyRemovesAt r.config.csvPath) {targets : List String} {started : Clock}
    {s s' : Session σ} {o : Outcome} (h : r.run targets started s = (.ok o, s')) :
    let report : RunReport :=
      ⟨r.config.buildName, started, o.results.map TestResult.row, o.passed, o.failed⟩
    let place := FileTree.place s'.files.home
    let kept := Sink.readRows r.config.csvPath s'.files = .ok (o.results.map TestResult.row)
    o.report = ⟨r.config.pagePath started, r.config.summaryPath⟩
      ∧ s'.files.readText o.report.page = .ok report.page
      ∧ s'.files.readText o.report.summary = .ok report.summaryText
      ∧ (kept ↔ place r.config.csvPath ≠ place o.report.page
        ∧ place r.config.csvPath ≠ place o.report.summary)
      ∧ (Path.isAbsolute r.config.csvFile = false → ".." ∉ Path.names r.config.csvFile →
        (kept ↔ Path.names r.config.csvFile ≠ [r.config.pageName started]
          ∧ Path.names r.config.csvFile ≠ [RunReport.summaryName])) := by
  intro report place kept
  obtain ⟨hpaths, hpage, hsummary, hsink⟩ := files_of_ok ht h
  have hkept : kept ↔ place r.config.csvPath ≠ place o.report.page
      ∧ place r.config.csvPath ≠ place o.report.summary := by
    simp only [kept]
    rw [Sink.readRows_of_readText hsink]
    -- a summary or a page in place of the sink does not even begin with the header
    split_ifs with hs hp
    · simp [Sink.rowsOf_summaryText, place, hs]
    · simp [Sink.rowsOf_page, place, hp]
    · simp [Sink.rowsOf_fileText, place, Ne.symm hs, Ne.symm hp]
  refine ⟨hpaths, hpage, hsummary, hkept, fun hrel hup => ?_⟩
  have hpageName : place r.config.csvPath = place (r.config.pagePath started)
      ↔ Path.names r.config.csvFile = [r.config.pageName started] :=
    FileTree.place_join_eq_iff hrel hup (Config.isAbsolute_pageName hc started)
      (Config.names_pageName hc started) (Config.pageName_ne started (by decide))
  have hsummaryName : place r.config.csvPath = place r.config.summaryPath
      ↔ Path.names r.config.csvFile = [RunReport.summaryName] :=
    FileTree.place_join_eq_iff hrel hup rfl (by decide) (by decide)
  rw [hkept, hpaths, Ne, Ne, hpageName, hsummaryName]

/-- A runner with one case, whose request is answered. -/
def answeredRunner (csvFile : String) : Runner Nat where
  config := { buildName := "b", outputDir := "out", csvFile := csvFile }
  catalogue := ⟨[⟨.wifi, none, "", [⟨"TCID1", "a", "", [], "get", "yes", none⟩]⟩]⟩
  transport := .oracle "oracle" fun _ => .ok "yes"

theorem answeredRunner_onlyRemovesAt (csvFile path : String) :
    (answeredRunner csvFile).transport.OnlyRemovesAt path :=
  (Transport.oracle_spares _ _).onlyRemovesAt path

/-- A sink in a directory of its own is kept, also under the name of the summary. -/
theorem run_keeps_rows_nested :
    let r := answeredRunner "csv/test-results.json"
    r.config.check = .ok () ∧ r.transport.OnlyRemovesAt r.config.csvPath
      ∧ ∃ o s', r.run ["Wifi"] default (.start .empty 0) = (.ok o, s')
        ∧ o.passed = ["a"]
        ∧ s'.files.readText o.report.page
          = .ok (RunReport.page ⟨"b", default, o.results.map TestResult.row, o.passed, o.failed⟩)
        ∧ Sink.readRows r.config.csvPath s'.files = .ok (o.results.map TestResult.row) := by
  intro r
  have hc : r.config.check = .ok () := eq_ok_of_toOption (by decide +kernel)
  have ht : r.transport.OnlyRemovesAt r.config.csvPath := answeredRunner_onlyRemovesAt _ _
  have hrun : (r.run ["Wifi"] default (.start .empty 0)).1.toOption.map (·.passed)
      = some ["a"] := by decide +kernel
  rcases h : r.run ["Wifi"] default (.start .empty 0) with ⟨result, s'⟩
  rw [h] at hrun
  obtain ⟨o, rfl, hpassed⟩ := exists_ok_of_toOption hrun
  obtain ⟨-, hpage, -, -, hnames⟩ := run_keeps_rows_iff hc ht h
  exact ⟨hc, ht, o, s', rfl, hpassed, hpage,
    (hnames (by decide) (by decide)).2 ⟨by decide, by decide⟩⟩

/-- A sink under the name of the summary passes `check`, and a run over it succeeds, but its rows
are gone. -/
theorem summary_replaces_rows :
    let r := answeredRunner "test-results.json"
    r.config.check = .ok () ∧ r.transport.SparesFiles
      ∧ ∃ o s', r.run ["Wifi"] default (.start .empty 0) = (.ok o, s')
        ∧ o.passed = ["a"]
        ∧ ∃ e, Sink.readRows r.config.csvPath s'.files = .error e
          ∧ e.message
            = "Report error: unexpected CSV header in out/test-results.json: [\"\x7b\"]" := by
  intro r
  have hc : r.config.check = .ok () := eq_ok_of_toOption (by decide +kernel)
  have ht : r.transport.OnlyRemovesAt r.config.csvPath := answeredRunner_onlyRemovesAt _ _
  have hrun : (r.run ["Wifi"] default (.start .empty 0)).1.toOption.map (·.passed)
      = some ["a"] := by decide +kernel
  rcases h : r.run ["Wifi"] default (.start .empty 0) with ⟨result, s'⟩
  rw [h] at hrun
  obtain ⟨o, rfl, hpassed⟩ := exists_ok_of_toOption hrun
  obtain ⟨hpaths, -, -, htext⟩ := files_of_ok ht h
  have hsame : o.report.summary = r.config.csvPath := by
    rw [hpaths]
    decide +kernel
  rw [hsame, if_pos rfl] at htext
  have hrows := Sink.readRows_of_readText htext
  rw [Sink.rowsOf_summaryText, mapError_error] at hrows
  exact ⟨hc, Transport.oracle_spares _ _, o, s', rfl, hpassed, _, hrows, by decide +kernel⟩

end Runner

end Conformance
