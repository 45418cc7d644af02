import Conformance.Proofs.Artifacts
import Conformance.Proofs.Execution.Remembering

/-!
# What a run depends on

A run that succeeds sends the requests of its plan, and its results are judged from the answers to
them (`outcome_of_answers`). The files that it finds have no part in it, so two runs with the same
answers have the same outcome and the same report, whatever was there before
(`run_forgets_history`).
-/

namespace Conformance.Runner

variable {σ : Type} {r : Runner σ} {targets : List String}

/-- The answers that the transport gives in a run, in order. -/
def answers (r : Runner σ) (targets : List String) (started : Clock) (s : Session σ) :
    List Answer :=
  (r.remembering.run targets started s.remember).2.remote.2

/-- The requests and the outcome of a run that succeeds, from its plan and its answers. -/
theorem outcome_of_answers {started : Clock} {s s' : Session σ} {o : Outcome}
    (h : r.run targets started s = (.ok o, s')) :
    ∃ p, r.plan targets = .ok p ∧ s'.sent = s.sent ++ p.cases.flatMap TestCase.payloads
      ∧ o.results = judged r.config.matchMode r.transport.label
        (answerAt (r.answers targets started s)) 0 p.cases
      ∧ o.passed = Sink.idsOf .pass o.results ∧ o.failed = Sink.idsOf .fail o.results := by
  have hforget := r.run_forget targets started s.remember
  unfold answers
  rw [Session.forget_remember, h] at hforget
  rcases hrun : r.remembering.run targets started s.remember with ⟨result, s₁⟩
  rw [hrun, Prod.mk.injEq] at hforget
  obtain ⟨rfl, rfl⟩ := hforget
  obtain ⟨p, sink, s₂, log, hrecorded, -, ho, hsent, hremote⟩ := recorded_of_ok hrun
  obtain ⟨-, hresults⟩ := r.results_remembering hrecorded.executed
  have hcases := sent_execute hrecorded.executed
  rw [remote_opened, ← hremote] at hresults
  rw [sent_opened, ← hsent] at hcases
  refine ⟨p, hrecorded.planned, hcases, ?_, ?_, ?_⟩
  · rw [ho]
    exact hresults
  · rw [ho]
    exact hrecorded.consistent.passed
  · rw [ho]
    exact hrecorded.consistent.failed

/-- Two runs over the same targets that succeed with the same answers have sent the same requests
and have the same results and lists, whatever files and state they began with. Where the transport
does no more to the sink than to remove it, page and summary of both show the same report but for
the time at which it started. Every configured transport is of this kind on a host whose processes
write no file (`Transport.connect_onlyRemovesAt`). -/
theorem run_forgets_history (r : Runner σ) {targets : List String} {a b : Clock}
    {s t s' t' : Session σ} {o q : Outcome} (hs : r.run targets a s = (.ok o, s'))
    (ht : r.run targets b t = (.ok q, t'))
    (hsame : r.answers targets a s = r.answers targets b t) :
    let report (started : Clock) : RunReport :=
      ⟨r.config.buildName, started, o.results.map TestResult.row, o.passed, o.failed⟩
    (∃ payloads, s'.sent = s.sent ++ payloads ∧ t'.sent = t.sent ++ payloads)
      ∧ q.results = o.results ∧ q.passed = o.passed ∧ q.failed = o.failed
      ∧ (r.transport.OnlyRemovesAt r.config.csvPath →
        s'.files.readText o.report.page = .ok (report a).page
          ∧ t'.files.readText q.report.page = .ok (report b).page
          ∧ s'.files.readText o.report.summary = .ok (report a).summaryText
          ∧ t'.files.readText q.report.summary = .ok (report b).summaryText) := by
  intro report
  obtain ⟨p, hp, hsent, hresults, hpassed, hfailed⟩ := outcome_of_answers hs
  obtain ⟨p', hp', hsent', hresults', hpassed', hfailed'⟩ := outcome_of_answers ht
  obtain rfl : p = p' := Except.ok.inj (hp.symm.trans hp')
  have hsameResults : q.results = o.results := by rw [hresults, hresults', hsame]
  have hsamePassed : q.passed = o.passed := by rw [hpassed, hpassed', hsameResults]
  have hsameFailed : q.failed = o.failed := by rw [hfailed, hfailed', hsameResults]
  refine ⟨⟨_, hsent, hsent'⟩, hsameResults, hsamePassed, hsameFailed, fun hremoves => ?_⟩
  obtain ⟨-, hpage, hsummary, -⟩ := files_of_ok hremoves hs
  obtain ⟨-, hpage', hsummary', -⟩ := files_of_ok hremoves ht
  rw [hsameResults, hsamePassed, hsameFailed] at hpage' hsummary'
  exact ⟨hpage, hpage', hsummary, hsummary'⟩

/-- A run over a sink that an earlier one left unfinished, and one over no files. -/
theorem run_forgets_history_rerun :
    let r := answeredRunner "rows.csv"
    let earlier : FileTree := ⟨["work"], [(["work"], .directory), (["work", "out"], .directory),
      (["work", "out", "rows.csv"], .file "test_id\nTCID0,\"no\n".toUTF8 false)]⟩
    let later : Clock := { (default : Clock) with second := 1 }
    ∃ o q s' t', r.run ["Wifi"] default (.start .empty 0) = (.ok o, s')
      ∧ r.run ["Wifi"] later (.start earlier 7) = (.ok q, t')
      ∧ r.answers ["Wifi"] default (.start .empty 0) = r.answers ["Wifi"] later (.start earlier 7)
      ∧ o.passed = ["a"] ∧ q.passed = ["a"] ∧ q.results = o.results
      ∧ t'.files.readText q.report.page
        = .ok (RunReport.page ⟨"b", later, o.results.map TestResult.row, o.passed, o.failed⟩) := by
  intro r earlier later
  have hrun : (r.run ["Wifi"] default (.start .empty 0)).1.toOption.map (·.passed)
      = some ["a"] := by decide +kernel
  have hrun' : (r.run ["Wifi"] later (.start earlier 7)).1.toOption.map (·.passed)
      = some ["a"] := by decide +kernel
  have hsame : r.answers ["Wifi"] default (.start .empty 0)
      = r.answers ["Wifi"] later (.start earlier 7) := by decide +kernel
  rcases h : r.run ["Wifi"] default (.start .empty 0) with ⟨result, s'⟩
  rcases h' : r.run ["Wifi"] later (.start earlier 7) with ⟨result', t'⟩
  rw [h] at hrun
  rw [h'] at hrun'
  obtain ⟨o, rfl, hpassed⟩ := exists_ok_of_toOption hrun
  obtain ⟨q, rfl, hpassed'⟩ := exists_ok_of_toOption hrun'
  obtain ⟨-, hresults, -, -, hreport⟩ := run_forgets_history r h h' hsame
  have hpage := (hreport (answeredRunner_onlyRemovesAt _ _)).2.1
  exact ⟨o, q, s', t', rfl, rfl, hsame, hpassed, hpassed', hresults, hpage⟩

end Conformance.Runner
