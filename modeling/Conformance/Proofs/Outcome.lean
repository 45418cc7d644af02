import Conformance.Proofs.Report
import Conformance.Proofs.Stages

/-!
# The outcome of a run

A run that succeeds resolved its targets to a plan, started its sink, recorded every case of the
plan and rendered the rows that it read back from the sink (`run_ok`). Its results are therefore
those of the cases of the plan, one for each, and its report shows the same (`outcome_of_run`).
-/

namespace Conformance

variable {σ : Type}

namespace Sink

/-- The ids of both lists together are those of the results. -/
theorem perm_idsOf (results : List TestResult) :
    (idsOf .pass results ++ idsOf .fail results).Perm (results.map (·.testId)) := by
  have hfail : idsOf .fail results
      = (results.filter fun r => !decide (r.status = .pass)).map (·.testId) := by
    unfold idsOf
    congr 1
    refine List.filter_congr fun r _ => ?_
    rcases r.status with _ | _ <;> rfl
  rw [hfail]
  unfold idsOf
  rw [← List.map_append]
  exact (List.filter_append_perm _ results).map _

end Sink

namespace Runner

variable {r : Runner σ}

/-- The stages of a run that succeeds. -/
theorem run_ok {targets : List String} {started : Clock} {s s' : Session σ} {o : Outcome}
    (h : r.run targets started s = (.ok o, s')) :
    ∃ (p : Plan) (s₁ s₂ : Session σ) (sink : Sink) (files : FileTree) (log : Log),
      Plan.ofSelection r.catalogue r.config.groupPolicy (.ofTargets targets) = .ok p
        ∧ ((Sink.new r.config.csvPath).reset s.files).1 = .ok ()
        ∧ s₁.files = ((Sink.new r.config.csvPath).reset s.files).2.2
        ∧ r.execute p.cases (Sink.new r.config.csvPath) s₁ = (.ok (), sink, s₂)
        ∧ Report.render sink r.config.outputDir r.config.buildName started s₂.files
          = (.ok o.report, files, log)
        ∧ o = ⟨r.config.buildName, started, sink.passed, sink.failed, sink.results, o.report⟩
        ∧ s'.files = files := by
  obtain ⟨p, sink, s₂, log, hr, hw, ho, -⟩ := recorded_of_ok h
  exact ⟨p, _, s₂, sink, s'.files, log, hr.planned, hr.started, files_opened r targets p s,
    hr.executed, hw, ho, rfl⟩

/-- The outcome of a run over a catalogue without shared keys, whatever the transport answers, if it
does no more to files than to remove some: one result for each case of the plan, in order and with
its id; the lists of ids are those of the results by status, and no id is in them twice; and page
and summary are those of a report with the same lists and the rows of the same results. -/
theorem outcome_of_run (hk : r.catalogue.check = .ok ()) (ht : r.transport.OnlyRemoves)
    {targets : List String} {started : Clock} {s s' : Session σ} {o : Outcome}
    (h : r.run targets started s = (.ok o, s')) :
    ∃ p, Plan.ofSelection r.catalogue r.config.groupPolicy (.ofTargets targets) = .ok p
      ∧ o.results.map (·.testId) = p.cases.map (·.id)
      ∧ o.passed = (o.results.filter (·.status = .pass)).map (·.testId)
      ∧ o.failed = (o.results.filter (·.status = .fail)).map (·.testId)
      ∧ (o.passed ++ o.failed).Nodup
      ∧ o.total = p.cases.length
      ∧ ∃ report : RunReport, report.passed = o.passed ∧ report.failed = o.failed
        ∧ report.rows = o.results.map TestResult.row
        ∧ s'.files.readText o.report.page = .ok report.page
        ∧ s'.files.readText o.report.summary = .ok report.summaryText := by
  obtain ⟨p, s₁, s₂, sink, files, log, hp, hr, hs₁, he, hw, ho, hs'⟩ := run_ok h
  have hh : (Sink.new r.config.csvPath).Holds s₁.files := hs₁ ▸ Sink.holds_reset hr
  obtain ⟨hc, hh', hids⟩ := execute_ok ht he (Sink.consistent_new _) hh
  have hids : sink.results.map (·.testId) = p.cases.map (·.id) := by simpa [Sink.new] using hids
  have hperm : (sink.passed ++ sink.failed).Perm (p.cases.map (·.id)) := by
    rw [hc.passed, hc.failed, ← hids]
    exact Sink.perm_idsOf sink.results
  obtain ⟨report, hcol, hpage, hsum⟩ := Report.render_ok hw
  unfold Report.collect at hcol
  rw [Sink.readRows_of_holds hh'] at hcol
  simp only [ok_bind, pure_eq_ok, Except.ok.injEq] at hcol
  rw [ho, hs']
  refine ⟨p, hp, hids, hc.passed, hc.failed, ?_, ?_, report, ?_, ?_, ?_, hpage, hsum⟩
  · exact hperm.nodup_iff.2 (nodup_ids (Plan.apart_ofSelection hk hp))
  · simpa [Outcome.total] using hperm.length_eq
  · rw [← hcol]
  · rw [← hcol]
  · rw [← hcol]

/-- A transport that removes a directory at every request. -/
def sweeping (dir : String) : Transport Unit where
  label := "sweeping"
  send _ _ files := ⟨.ok "yes", (), (files.removeDirectory dir).toOption.getD files⟩

theorem sweeping_onlyRemoves (dir : String) : (sweeping dir).OnlyRemoves := by
  intro payload state files
  rcases h : files.removeDirectory dir with e | u <;>
    simp only [sweeping, h, Except.toOption, Option.getD]
  · exact FileTree.Within.refl files
  · exact FileTree.removeDirectory_within h

/-- Two cases, and a sink outside the directory that the transport removes. -/
def sweptRunner : Runner Unit where
  config := { outputDir := "out", csvFile := "/work/rows.csv" }
  catalogue := ⟨[⟨.wifi, none, "",
    [⟨"TCID1", "a", "", ["on"], "get", "yes", none⟩, ⟨"TCID2", "b", "", [], "put", "no", none⟩]⟩]⟩
  transport := sweeping "out"

theorem outcome_of_swept_run :
    let files : FileTree := ⟨["work"], [(["work"], .directory), (["work", "out"], .directory)]⟩
    sweptRunner.catalogue.check = .ok () ∧ sweptRunner.transport.OnlyRemoves
      ∧ ∃ o s', sweptRunner.run ["Wifi"] default (.start files ()) = (.ok o, s')
        ∧ o.passed = ["a"] ∧ o.failed = ["b"] ∧ (o.passed ++ o.failed).Nodup
        ∧ ∃ report : RunReport, report.rows = o.results.map TestResult.row
          ∧ s'.files.readText o.report.page = .ok report.page := by
  intro files
  have hlists : (sweptRunner.run ["Wifi"] default (.start files ())).1.toOption.map
      (fun o => (o.passed, o.failed)) = some (["a"], ["b"]) := by decide +kernel
  refine ⟨rfl, sweeping_onlyRemoves "out", ?_⟩
  rcases h : sweptRunner.run ["Wifi"] default (.start files ()) with ⟨e | o, s'⟩ <;>
    rw [h] at hlists
  · simp [Except.toOption] at hlists
  · simp only [Except.toOption, Option.map_some, Option.some.injEq, Prod.mk.injEq] at hlists
    obtain ⟨p, -, -, -, -, hnodup, -, report, -, -, hrows, hpage, -⟩ :=
      outcome_of_run rfl (sweeping_onlyRemoves "out") h
    exact ⟨o, s', rfl, hlists.1, hlists.2, hnodup, report, hrows, hpage⟩

end Runner

end Conformance
