import Conformance.Proofs.Effects
import Conformance.Proofs.Plan

/-!
# The stages of a run

A run resolves its targets, starts its sink, executes the cases and writes its report, and it ends
at the first of these that fails (`stages`). `run_of_unresolved`, `run_of_unstarted`,
`run_of_unrecorded` and `run_of_recorded` say what is left behind in each case, so page and summary
are written only when every case of the plan was recorded (`run_writes_report_last`).
-/

namespace Conformance.Runner

variable {σ : Type}

section Stages

variable (r : Runner σ)

/-- The plan of the targets. -/
def plan (targets : List String) : Except Failure Plan :=
  Plan.ofSelection r.catalogue r.config.groupPolicy (.ofTargets targets)

/-- The sink of a run, before any result. -/
def sink : Sink := .new r.config.csvPath

/-- What is said about the targets. -/
def targetLog (targets : List String) : Log :=
  Plan.log r.catalogue r.config.groupPolicy (.ofTargets targets)

/-- The session in which the cases of a plan are executed, once the sink was started. -/
def opened (targets : List String) (p : Plan) (s : Session σ) : Session σ :=
  ((s.note (r.targetLog targets)).withFiles (r.sink.reset s.files).2.2).note
    [r.startLine p, Log.info "***** Test Execution Starts *****"]

/-- Every case of the plan was executed and recorded. -/
structure Recorded (targets : List String) (s : Session σ) (p : Plan) (sink : Sink)
    (s' : Session σ) : Prop where
  planned : r.plan targets = .ok p
  started : (r.sink.reset s.files).1 = .ok ()
  executed : r.execute p.cases r.sink (r.opened targets p s) = (.ok (), sink, s')

theorem files_opened (targets : List String) (p : Plan) (s : Session σ) :
    (r.opened targets p s).files = (r.sink.reset s.files).2.2 := by
  unfold opened
  rw [Session.files_note, Session.files_withFiles]

theorem sent_opened (targets : List String) (p : Plan) (s : Session σ) :
    (r.opened targets p s).sent = s.sent := by
  unfold opened
  rw [Session.sent_note, Session.sent_withFiles, Session.sent_note]

theorem remote_opened (targets : List String) (p : Plan) (s : Session σ) :
    (r.opened targets p s).remote = s.remote := by
  unfold opened
  rw [Session.remote_note, Session.remote_withFiles, Session.remote_note]

variable {r} {targets : List String} {started : Clock} {s s' : Session σ} {p : Plan} {sink : Sink}
  {e : Failure}

/-- Targets without a plan leave everything as it is but the log. -/
theorem run_of_unresolved (hp : r.plan targets = .error e) :
    r.run targets started s = (.error e, s.note (r.targetLog targets)) := by
  unfold plan at hp
  unfold run targetLog
  simp only [hp]

theorem run_of_unstarted (hp : r.plan targets = .ok p)
    (hr : (r.sink.reset s.files).1 = .error e) :
    r.run targets started s
      = (.error e,
        (s.note (r.targetLog targets)).withFiles (r.sink.reset s.files).2.2) := by
  unfold plan at hp
  unfold Runner.sink at hr
  unfold run targetLog Runner.sink
  simp only [hp, Session.files_note]
  rcases h : (Sink.new r.config.csvPath).reset s.files with ⟨_ | _, sink, files⟩ <;> rw [h] at hr
  · simp only [Except.error.injEq] at hr
    rw [hr]
  · simp at hr

theorem run_of_started (hp : r.plan targets = .ok p) (hr : (r.sink.reset s.files).1 = .ok ()) :
    r.run targets started s
      = r.executePlan p started r.sink
        ((s.note (r.targetLog targets)).withFiles (r.sink.reset s.files).2.2) := by
  have hs := Sink.sink_reset r.sink s.files
  unfold plan at hp
  unfold Runner.sink at hr hs
  unfold run targetLog Runner.sink
  simp only [hp, Session.files_note]
  rcases h : (Sink.new r.config.csvPath).reset s.files with ⟨_ | _, sink, files⟩ <;>
    rw [h] at hr hs
  · simp at hr
  · obtain rfl : sink = Sink.new r.config.csvPath := hs
    rfl

/-- A case that cannot be recorded ends the run with the failure to record it. -/
theorem run_of_unrecorded (hp : r.plan targets = .ok p)
    (hr : (r.sink.reset s.files).1 = .ok ())
    (he : r.execute p.cases r.sink (r.opened targets p s) = (.error e, sink, s')) :
    r.run targets started s = (.error e, s') := by
  rw [run_of_started hp hr]
  unfold executePlan
  simp only []
  unfold opened at he
  rw [he]

/-- Once all cases are recorded, the report is rendered and nothing more is sent. -/
theorem run_of_recorded (h : r.Recorded targets s p sink s') :
    let rendered :=
      Report.render sink r.config.outputDir r.config.buildName started s'.files
    (r.run targets started s).1 = rendered.1.map (fun paths =>
        ⟨r.config.buildName, started, sink.passed, sink.failed, sink.results, paths⟩)
      ∧ (r.run targets started s).2.files = rendered.2.1
      ∧ (r.run targets started s).2.sent = s'.sent
      ∧ (r.run targets started s).2.remote = s'.remote := by
  have he := h.executed
  unfold opened at he
  rw [run_of_started h.planned h.started]
  unfold executePlan
  simp only [he, Session.files_note]
  rcases hw : Report.render sink r.config.outputDir r.config.buildName started s'.files
    with ⟨e | paths, files, log⟩
  · exact ⟨rfl, rfl, rfl, rfl⟩
  · exact ⟨rfl, rfl, rfl, rfl⟩

/-- Targets have no plan, or its sink cannot be started, or a case cannot be recorded, or all cases
are recorded. -/
theorem stages (r : Runner σ) (targets : List String) (s : Session σ) :
    (∃ e, r.plan targets = .error e)
      ∨ (∃ p e, r.plan targets = .ok p ∧ (r.sink.reset s.files).1 = .error e)
      ∨ (∃ p e sink s', r.plan targets = .ok p ∧ (r.sink.reset s.files).1 = .ok ()
        ∧ r.execute p.cases r.sink (r.opened targets p s) = (.error e, sink, s'))
      ∨ ∃ p sink s', r.Recorded targets s p sink s' := by
  rcases hp : r.plan targets with e | p
  · exact .inl ⟨e, rfl⟩
  rcases hr : (r.sink.reset s.files).1 with e | ⟨⟩
  · exact .inr (.inl ⟨p, e, rfl, rfl⟩)
  rcases he : r.execute p.cases r.sink (r.opened targets p s) with ⟨e | ⟨⟩, sink, s'⟩
  · exact .inr (.inr (.inl ⟨p, e, sink, s', rfl, rfl, he⟩))
  · exact .inr (.inr (.inr ⟨p, sink, s', hp, hr, he⟩))

theorem Recorded.path (h : r.Recorded targets s p sink s') : sink.path = r.config.csvPath :=
  path_execute h.executed

theorem Recorded.consistent (h : r.Recorded targets s p sink s') : sink.Consistent :=
  consistent_execute h.executed (Sink.consistent_new _)

/-- The file of a sink that recorded all cases holds their rows. -/
theorem Recorded.holds (h : r.Recorded targets s p sink s')
    (ht : r.transport.OnlyRemovesAt r.config.csvPath) : sink.Holds s'.files := by
  have hpath : r.sink.path = r.config.csvPath := rfl
  have hcleared : r.sink.cleared = r.sink := rfl
  have hreset := Sink.holds_reset h.started
  rw [hcleared, ← files_opened r targets p] at hreset
  rw [← hpath] at ht
  exact holds_execute h.executed ht hreset

/-- A run that succeeds has recorded all cases and written its report. -/
theorem recorded_of_ok {o : Outcome} (h : r.run targets started s = (.ok o, s')) :
    ∃ p sink s₂ log, r.Recorded targets s p sink s₂
      ∧ Report.render sink r.config.outputDir r.config.buildName started s₂.files
        = (.ok o.report, s'.files, log)
      ∧ o = ⟨r.config.buildName, started, sink.passed, sink.failed, sink.results, o.report⟩
      ∧ s'.sent = s₂.sent ∧ s'.remote = s₂.remote := by
  rcases r.stages targets s with ⟨e, hp⟩ | ⟨p, e, hp, hr⟩ | ⟨p, e, sink, s₂, hp, hr, he⟩
    | ⟨p, sink, s₂, hrecorded⟩
  · rw [run_of_unresolved hp] at h
    simp at h
  · rw [run_of_unstarted hp hr] at h
    simp at h
  · rw [run_of_unrecorded hp hr he] at h
    simp at h
  obtain ⟨hresult, hfiles, hsent, hremote⟩ : (r.run targets started s).1 = _ ∧ _ :=
    run_of_recorded hrecorded
  rw [h] at hresult hfiles hsent hremote
  rcases hw : Report.render sink r.config.outputDir r.config.buildName started s₂.files
    with ⟨e | paths, files, log⟩ <;> rw [hw] at hresult hfiles
  · simp [Except.map] at hresult
  · simp only [Except.map, Except.ok.injEq] at hresult
    subst hresult
    exact ⟨p, sink, s₂, log, hrecorded, hfiles ▸ hw, rfl, hsent, hremote⟩

end Stages

section Files

variable (r : Runner σ)

/-- What happens to files before the report: the transport sends, and the sink writes its file. -/
def Gathers : FileTree → FileTree → Prop := Effects r.transport (Sink.Writes r.config.csvPath)

theorem gathers_reset (files : FileTree) : r.Gathers files (r.sink.reset files).2.2 :=
  effects_reset r.transport r.sink files

theorem gathers_execute (targets : List String) (p : Plan) (s : Session σ)
    (cases : List TestCase) :
    r.Gathers s.files (r.execute cases r.sink (r.opened targets p s)).2.2.files := by
  have he := r.effects_execute cases r.sink (r.opened targets p s)
  rw [files_opened] at he
  exact (r.gathers_reset s.files).trans he

/-- Until all cases are recorded, nothing is written but the file of the sink. -/
theorem gathers_or_recorded (targets : List String) (started : Clock) (s : Session σ) :
    r.Gathers s.files (r.run targets started s).2.files
      ∨ ∃ p sink s', r.Recorded targets s p sink s' ∧ r.Gathers s.files s'.files
        ∧ (r.run targets started s).2.files
          = (Report.render sink r.config.outputDir r.config.buildName started s'.files).2.1 := by
  rcases r.stages targets s with ⟨e, hp⟩ | ⟨p, e, hp, hr⟩ | ⟨p, e, sink, s', hp, hr, he⟩
    | ⟨p, sink, s', h⟩
  · rw [run_of_unresolved hp, Session.files_note]
    exact .inl .refl
  · rw [run_of_unstarted hp hr, Session.files_withFiles]
    exact .inl (r.gathers_reset s.files)
  · have hg := r.gathers_execute targets p s p.cases
    rw [he] at hg
    rw [run_of_unrecorded hp hr he]
    exact .inl hg
  · have hg := r.gathers_execute targets p s p.cases
    rw [h.executed] at hg
    exact .inr ⟨p, sink, s', h, hg, (run_of_recorded h).2.1⟩

end Files

end Conformance.Runner
