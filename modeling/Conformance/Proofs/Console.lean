import Conformance.Console
import Conformance.Proofs.Containment
import Conformance.Proofs.Summary

/-!
# The status of the program

A program that was asked for a run fails, or lists the catalogue, or runs to the end (`ways`). The
status tells which (`status_of_respond`): two exactly if it fails, and one exactly if a case that
was executed failed, which is to say that the summary of the run lists a failed case.
-/

namespace Conformance

variable {σ : Type}

section Summary

/-- The ids that the text of a summary lists as failed. -/
def failedIds? (text : String) : Option (List Datum) :=
  match (Json.read text).toOption.map Json.datum with
  | some (.object value) =>
    match value "failed" with
    | some (.array ids) => some ids
    | _ => none
  | _ => none

theorem RunReport.failedIds?_summaryText (r : RunReport) :
    failedIds? r.summaryText = some (r.failed.map .string) := by
  unfold failedIds?
  rw [r.read_summaryText]
  exact congrArg some (Json.itemData_map_string r.failed)

/-- A run that succeeds leaves a summary that lists the ids of its failed cases. -/
theorem Runner.failedIds_of_run {r : Runner σ} {targets : List String} {started : Clock}
    {s s' : Session σ} {o : Outcome} (h : r.run targets started s = (.ok o, s')) :
    ∃ text, s'.files.readText r.config.summaryPath = .ok text
      ∧ failedIds? text = some (o.failed.map .string) := by
  obtain ⟨p, sink, s₂, log, -, hw, ho, -⟩ := recorded_of_ok h
  obtain ⟨report, v, hreport, -, hsummary⟩ := Report.render_stages hw
  obtain ⟨hpath, htext⟩ := Report.readText_writeInto hsummary
  obtain ⟨-, -, -, hfailed⟩ := Report.collect_fields hreport
  refine ⟨report.summaryText, ?_, ?_⟩
  · rw [hpath] at htext
    exact htext
  · rw [report.failedIds?_summaryText, hfailed, ho]

end Summary

namespace Console

section Ways

variable (connect : Config → Except TransportError (Transport σ)) (started : Clock)
  (c : CommandLine) (s : Session σ)

/-- A command line gives the runner, and this is said about it. -/
def Prepares (t : FileTree) (r : Runner σ) (log : Log) : Prop :=
  ∃ config, c.effectiveConfig t = .ok config ∧ Runner.ofConfig connect config t = (.ok r, log)

/-- Why the program fails that was asked for a run: there is no configuration, or no runner for it,
or a run fails that was not to list only. -/
inductive Fails : Failure → Prop
  | unconfigured {e : Failure} (h : c.effectiveConfig s.files = .error e) : Fails e
  | unprepared {e : Failure} {config : Config} {log : Log}
      (hc : c.effectiveConfig s.files = .ok config)
      (h : Runner.ofConfig connect config s.files = (.error e, log)) : Fails e
  | unfinished {e : Failure} {r : Runner σ} {log : Log} {s' : Session σ}
      (hp : Prepares connect c s.files r log) (hlist : c.list = false)
      (h : r.run c.targets started (s.note log) = (.error e, s')) : Fails e

variable {connect started c s} {r : Runner σ} {log : Log}

theorem execute_of_prepares (hp : Prepares connect c s.files r log) :
    execute connect started c s = if c.list then
        (⟨0, (catalogueTable r.catalogue).text ++ "\n", ""⟩, s.note log)
      else
        (exitOf (r.run c.targets started (s.note log)).1,
          (r.run c.targets started (s.note log)).2) := by
  obtain ⟨config, hc, hr⟩ := hp
  unfold execute
  simp only [hc, hr]

/-- A program that fails ends with what it says about the failure. -/
theorem execute_of_fails {e : Failure} (h : Fails connect started c s e) :
    (execute connect started c s).1 = exitOf (.error e) := by
  cases h with
  | unconfigured h =>
    unfold execute
    simp only [h]
  | unprepared hc h =>
    unfold execute
    simp only [hc, h]
  | unfinished hp hlist h => rw [execute_of_prepares hp, hlist, if_neg Bool.false_ne_true, h]

/-- The program fails, or it lists the catalogue, or its run succeeds. -/
theorem ways (connect : Config → Except TransportError (Transport σ)) (started : Clock)
    (c : CommandLine) (s : Session σ) :
    (∃ e, Fails connect started c s e)
      ∨ ∃ r log, Prepares connect c s.files r log
        ∧ (c.list = true ∨ c.list = false
          ∧ ∃ o s', r.run c.targets started (s.note log) = (.ok o, s')) := by
  rcases hc : c.effectiveConfig s.files with e | config
  · exact .inl ⟨e, .unconfigured hc⟩
  rcases hr : Runner.ofConfig connect config s.files with ⟨e | r, log⟩
  · exact .inl ⟨e, .unprepared hc hr⟩
  rcases hlist : c.list with _ | _
  · rcases h : r.run c.targets started (s.note log) with ⟨e | o, s'⟩
    · exact .inl ⟨e, .unfinished ⟨config, hc, hr⟩ hlist h⟩
    · exact .inr ⟨r, log, ⟨config, hc, hr⟩, .inr ⟨rfl, o, s', h⟩⟩
  · exact .inr ⟨r, log, ⟨config, hc, hr⟩, .inl rfl⟩

end Ways

section Status

theorem code_exitOf_ok (o : Outcome) :
    (exitOf (.ok o)).code = if o.failed = [] then 0 else 1 := by
  rcases h : o.failed with _ | ⟨id, ids⟩ <;> simp [exitOf, Outcome.success, h]

variable {connect : Config → Except TransportError (Transport σ)} {started : Clock}
  {c : CommandLine} {s : Session σ}

theorem code_eq_two_iff :
    (execute connect started c s).1.code = 2 ↔ ∃ e, Fails connect started c s e := by
  constructor
  · intro h
    rcases ways connect started c s with hfails | ⟨r, log, hp, hlist | ⟨hlist, o, s', hrun⟩⟩
    · exact hfails
    · rw [execute_of_prepares hp, if_pos hlist] at h
      simp at h
    · rw [execute_of_prepares hp, hlist, if_neg Bool.false_ne_true, hrun, code_exitOf_ok] at h
      split_ifs at h <;> exact absurd h (by decide)
  · rintro ⟨e, h⟩
    rw [execute_of_fails h]
    rfl

theorem code_exitOf_eq_one_iff (o : Outcome) : (exitOf (.ok o)).code = 1 ↔ o.failed ≠ [] := by
  rw [code_exitOf_ok]
  split_ifs with h <;> simp [h]

/-- A run that was executed to its end: the status is one exactly if a result is that of a case that
failed, and exactly if the summary lists such a case, and it is zero otherwise. -/
theorem status_of_run {r : Runner σ} {log : Log} {o : Outcome} {s' : Session σ}
    (hp : Prepares connect c s.files r log) (hlist : c.list = false)
    (h : r.run c.targets started (s.note log) = (.ok o, s')) :
    let exit := (execute connect started c s).1
    ∃ p sink s₂ summary ids, r.Recorded c.targets (s.note log) p sink s₂
      ∧ sink.results.map (·.testId) = p.cases.map (·.id)
      ∧ (execute connect started c s).2.files.readText r.config.summaryPath = .ok summary
      ∧ failedIds? summary = some ids
      ∧ (exit.code = 1 ↔ ∃ x ∈ sink.results, x.status = .fail)
      ∧ (exit.code = 1 ↔ ids ≠ [])
      ∧ (exit.code ≠ 1 → exit.code = 0)
      ∧ (p.cases = [] → exit.code = 0) := by
  obtain ⟨p, sink, s₂, _, hrecorded, -, ho, -⟩ := Runner.recorded_of_ok h
  obtain ⟨summary, htext, hids⟩ := Runner.failedIds_of_run h
  have hresults : sink.results.map (·.testId) = p.cases.map (·.id) :=
    Runner.ids_execute hrecorded.executed
  have hfailed : o.failed ≠ [] ↔ ∃ x ∈ sink.results, x.status = .fail := by
    rw [ho, hrecorded.consistent.failed]
    simp [Sink.idsOf]
  have hzero : o.failed = [] → (exitOf (.ok o)).code = 0 := by
    intro hnone
    rw [code_exitOf_ok, if_pos hnone]
  rw [execute_of_prepares hp, hlist, if_neg Bool.false_ne_true, h]
  refine ⟨p, sink, s₂, summary, _, hrecorded, hresults, htext, hids, ?_, ?_, ?_, fun hnone => ?_⟩
  · exact (code_exitOf_eq_one_iff o).trans hfailed
  · rw [code_exitOf_eq_one_iff, Ne, Ne, List.map_eq_nil_iff]
  · rw [Ne, code_exitOf_eq_one_iff, not_not]
    exact hzero
  · refine hzero (not_not.1 fun hsome => ?_)
    obtain ⟨x, hx, -⟩ := hfailed.1 hsome
    rw [hnone, List.map_nil, List.map_eq_nil_iff] at hresults
    simp [hresults] at hx

/-- What the status tells of a program that was asked for a run, whatever the files and the
transport are: it is two exactly if the program fails. Otherwise a program that is to list only ends
with zero and has sent and written nothing; any other has executed its plan to the end and ends with
one exactly if a case failed, which is also found in the summary, and with zero if none did. -/
theorem status_of_respond {arguments : List String} {environment : String → Option String}
    (h : CommandLine.read arguments environment = .ok (.run c))
    (connect : Config → Except TransportError (Transport σ)) (started : Clock) (s : Session σ) :
    let exit := (respond connect started arguments environment s).1
    let s' := (respond connect started arguments environment s).2
    (exit.code = 2 ↔ ∃ e, Fails connect started c s e)
      ∧ ((¬∃ e, Fails connect started c s e) →
        (c.list = true → exit.code = 0 ∧ s'.sent = s.sent ∧ s'.files = s.files
          ∧ s'.remote = s.remote)
        ∧ (c.list = false → ∃ r log p sink s₂ summary ids, Prepares connect c s.files r log
          ∧ r.Recorded c.targets (s.note log) p sink s₂
          ∧ sink.results.map (·.testId) = p.cases.map (·.id)
          ∧ s'.files.readText r.config.summaryPath = .ok summary
          ∧ failedIds? summary = some ids
          ∧ (exit.code = 1 ↔ ∃ x ∈ sink.results, x.status = .fail)
          ∧ (exit.code = 1 ↔ ids ≠ [])
          ∧ (exit.code ≠ 1 → exit.code = 0)
          ∧ (p.cases = [] → exit.code = 0))) := by
  have hrespond : respond connect started arguments environment s
      = execute connect started c s := by
    unfold respond
    rw [h]
  rw [hrespond]
  refine ⟨code_eq_two_iff, fun hnone => ?_⟩
  rcases ways connect started c s with hfails | ⟨r, log, hp, hlist | ⟨hlist, o, s', hrun⟩⟩
  · exact absurd hfails hnone
  · rw [execute_of_prepares hp, if_pos hlist]
    exact ⟨fun _ => ⟨rfl, rfl, rfl, rfl⟩, fun hrun => by simp [hlist] at hrun⟩
  · obtain ⟨p, sink, s₂, summary, ids, hstatus⟩ := status_of_run hp hlist hrun
    exact ⟨fun hl => by simp [hlist] at hl,
      fun _ => ⟨r, log, p, sink, s₂, summary, ids, hp, hstatus⟩⟩

/-- A run in which a case fails: the host answers otherwise than expected. -/
theorem status_of_failed_run :
    let contrary : Transport Unit := ⟨"contrary", fun _ _ files => ⟨.ok "no", (), files⟩⟩
    let arguments := ["TCID_000_DS_LEDControl_Activate"]
    CommandLine.read arguments (fun _ => none) = .ok (.run { targets := arguments })
      ∧ ∃ exit s', respond (fun _ => .ok contrary) default arguments (fun _ => none)
          (.start .empty ()) = (exit, s') ∧ exit.code = 1
        ∧ ∃ path summary ids, s'.files.readText path = .ok summary
          ∧ failedIds? summary = some ids ∧ ids ≠ [] := by
  intro contrary arguments
  have hread : CommandLine.read arguments (fun _ => none) = .ok (.run { targets := arguments }) := by
    decide +kernel
  have hcode : (respond (fun _ => .ok contrary) default arguments (fun _ => none)
      (.start .empty ())).1.code = 1 := by decide +kernel
  have hstatus := status_of_respond hread (fun _ => .ok contrary) default (.start .empty ())
  generalize respond (fun _ => .ok contrary) default arguments (fun _ => none)
    (.start .empty ()) = answer at hcode hstatus ⊢
  obtain ⟨exit, s'⟩ := answer
  obtain ⟨hfails, hstatus⟩ := hstatus
  have hnone : ¬∃ e, Fails (fun _ => .ok contrary) default { targets := arguments }
      (.start .empty ()) e := by
    rw [← hfails, hcode]
    decide
  obtain ⟨r, log, p, sink, s₂, summary, ids, -, -, -, htext, hids, -, hone, -⟩ :=
    (hstatus hnone).2 rfl
  exact ⟨hread, exit, s', rfl, hcode, r.config.summaryPath, summary, ids, htext, hids,
    hone.1 hcode⟩

end Status

end Console

end Conformance
