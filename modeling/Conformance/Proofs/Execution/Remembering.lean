import Conformance.Proofs.Execution.Oracle

/-!
# Executions that remember their answers

`Transport.remembering` keeps the answers of a transport beside its state. Nothing in a run reads
them, so a run with it is, once they are forgotten, the run without it (`run_forget`). The results
of an execution are told by the answers that it remembers (`results_remembering`).
-/

namespace Conformance

variable {σ : Type}

/-- The transport together with its answers so far, oldest first. -/
def Transport.remembering (t : Transport σ) : Transport (σ × List Answer) where
  label := t.label
  send payload s files :=
    let e := t.send payload s.1 files
    ⟨e.answer, (e.state, s.2 ++ [e.answer]), e.files⟩

namespace Session

/-- The session at the start of what is to be remembered. -/
def remember (s : Session σ) : Session (σ × List Answer) := ⟨s.files, (s.remote, []), s.sent, s.log⟩

/-- The session without the answers. -/
def forget (s : Session (σ × List Answer)) : Session σ := ⟨s.files, s.remote.1, s.sent, s.log⟩

theorem files_forget (s : Session (σ × List Answer)) : s.forget.files = s.files := rfl

theorem note_forget (lines : Log) (s : Session (σ × List Answer)) :
    s.forget.note lines = (s.note lines).forget := rfl

theorem withFiles_forget (files : FileTree) (s : Session (σ × List Answer)) :
    s.forget.withFiles files = (s.withFiles files).forget := rfl

theorem forget_remember (s : Session σ) : s.remember.forget = s := rfl

end Session

namespace Runner

variable (r : Runner σ)

/-- The runner with the answers of its transport beside the transport's state. -/
def remembering : Runner (σ × List Answer) := ⟨r.config, r.catalogue, r.transport.remembering⟩

section Forget

theorem sendSetup_forget (c : TestCase) : ∀ (payloads : List String)
    (s : Session (σ × List Answer)),
    r.sendSetup c payloads s.forget = (r.remembering.sendSetup c payloads s).forget
  | [], _ => rfl
  | payload :: rest, s => by
    rw [sendSetup_cons, sendSetup_cons, ← sendSetup_forget c rest]
    rfl

theorem runCase_forget (c : TestCase) (s : Session (σ × List Answer)) :
    r.runCase c s.forget
      = ((r.remembering.runCase c s).1, (r.remembering.runCase c s).2.forget) := by
  have h : r.sendSetup c c.setup (s.forget.note c.announcement)
      = (r.remembering.sendSetup c c.setup (s.note c.announcement)).forget :=
    r.sendSetup_forget c c.setup (s.note c.announcement)
  unfold runCase
  rw [h]
  rfl

theorem execute_forget : ∀ (cases : List TestCase) (sink : Sink) (s : Session (σ × List Answer)),
    r.execute cases sink s.forget
      = ((r.remembering.execute cases sink s).1, (r.remembering.execute cases sink s).2.1,
        (r.remembering.execute cases sink s).2.2.forget)
  | [], _, _ => rfl
  | c :: rest, sink, s => by
    unfold execute
    simp only [runCase_forget, Session.files_note, Session.files_forget]
    rcases sink.store (r.remembering.runCase c s).1 (r.remembering.runCase c s).2.files
      with ⟨e | ⟨⟩, next, files⟩
    · rfl
    · exact execute_forget rest next
        (((r.remembering.runCase c s).2.note [(r.remembering.runCase c s).1.line]).withFiles files)

theorem executePlan_forget (p : Plan) (started : Clock) (sink : Sink)
    (s : Session (σ × List Answer)) :
    r.executePlan p started sink s.forget
      = ((r.remembering.executePlan p started sink s).1,
        (r.remembering.executePlan p started sink s).2.forget) := by
  have hline : r.remembering.startLine p = r.startLine p := rfl
  have hconfig : r.remembering.config = r.config := rfl
  unfold executePlan
  simp only [Session.note_forget, execute_forget, hline, Session.files_note]
  rcases r.remembering.execute p.cases sink
    (s.note [r.startLine p, Log.info "***** Test Execution Starts *****"])
    with ⟨e | ⟨⟩, next, s'⟩
  · rfl
  simp only [Session.files_forget, hconfig]
  rcases Report.render next r.config.outputDir r.config.buildName started s'.files
    with ⟨e | paths, files, log⟩
  · rfl
  · rfl

theorem run_forget (targets : List String) (started : Clock) (s : Session (σ × List Answer)) :
    r.run targets started s.forget
      = ((r.remembering.run targets started s).1,
        (r.remembering.run targets started s).2.forget) := by
  have hconfig : r.remembering.config = r.config := rfl
  have hcatalogue : r.remembering.catalogue = r.catalogue := rfl
  unfold run
  simp only [Session.note_forget, Session.files_note, Session.files_forget, hconfig, hcatalogue]
  rcases Plan.ofSelection r.catalogue r.config.groupPolicy (.ofTargets targets) with e | p
  · rfl
  simp only []
  rcases (Sink.new r.config.csvPath).reset s.files with ⟨e | ⟨⟩, sink, files⟩
  · rfl
  · simp only [Session.withFiles_forget, executePlan_forget]

end Forget

section Results

/-- The answer with a number, from zero. -/
def answerAt (answers : List Answer) (n : Nat) : Answer := answers[n]?.getD (.ok "")

theorem sendSetup_remembering (c : TestCase) : ∀ (payloads : List String)
    (s : Session (σ × List Answer)), ∃ answers, answers.length = payloads.length
      ∧ (r.remembering.sendSetup c payloads s).remote.2 = s.remote.2 ++ answers
  | [], s => ⟨[], rfl, (List.append_nil _).symm⟩
  | payload :: rest, s => by
    obtain ⟨answers, hlen, h⟩ := sendSetup_remembering c rest
      ((s.send r.remembering.transport payload).2.note
        (c.setupLog (s.send r.remembering.transport payload).1))
    have hsend : (s.send r.remembering.transport payload).2.remote.2
        = s.remote.2 ++ [(s.send r.remembering.transport payload).1] := rfl
    refine ⟨(s.send r.remembering.transport payload).1 :: answers, by simp [hlen], ?_⟩
    rw [sendSetup_cons, h, Session.remote_note, hsend, List.append_assoc, List.singleton_append]

/-- A case remembers the answers to its setup requests and then that to its own request, from which
its result is judged. -/
theorem runCase_remembering (c : TestCase) (s : Session (σ × List Answer)) :
    ∃ answers answer, answers.length = c.setup.length
      ∧ (r.remembering.runCase c s).1
        = c.judge r.config.matchMode r.transport.label answer
      ∧ (r.remembering.runCase c s).2.remote.2 = s.remote.2 ++ (answers ++ [answer]) := by
  obtain ⟨answers, hlen, h⟩ := r.sendSetup_remembering c c.setup (s.note c.announcement)
  refine ⟨answers, _, hlen, runCase_fst r.remembering c s, ?_⟩
  rw [← List.append_assoc, ← Session.remote_note c.announcement s, ← h]
  rfl

/-- The results that an execution adds are judged from the answers that it remembers. -/
theorem results_remembering : ∀ {cases : List TestCase} {sink sink' : Sink}
    {s s' : Session (σ × List Answer)}, r.remembering.execute cases sink s = (.ok (), sink', s') →
      (∃ answers, s'.remote.2 = s.remote.2 ++ answers)
        ∧ sink'.results = sink.results ++ judged r.config.matchMode r.transport.label
          (answerAt s'.remote.2) s.remote.2.length cases
  | [], sink, sink', s, s', h => by
    simp only [execute_nil, Prod.mk.injEq, true_and] at h
    simp [h.1, h.2, judged]
  | c :: rest, sink, sink', s, s', h => by
    obtain ⟨next, files, hr, h⟩ := execute_cons_ok h
    obtain ⟨rfl, -⟩ := Sink.record_ok hr
    obtain ⟨before, answer, hlen, hres, hrem⟩ := r.runCase_remembering c s
    obtain ⟨⟨after, hafter⟩, hresults⟩ := results_remembering h
    rw [Session.remote_withFiles, Session.remote_note, hrem] at hafter hresults
    -- the answer to the case's own request stands behind those before the case and to its setup
    have hanswer : answerAt s'.remote.2 (s.remote.2.length + c.setup.length) = answer := by
      rw [hafter, answerAt, ← hlen]
      simp
    have hcount : (s.remote.2 ++ (before ++ [answer])).length
        = s.remote.2.length + c.payloads.length := by
      simp [hlen, c.length_payloads]
    refine ⟨⟨before ++ [answer] ++ after, by rw [hafter, List.append_assoc]⟩, ?_⟩
    rw [hresults, Sink.results_add, hres, judged_cons, hanswer, hcount, List.append_assoc,
      List.singleton_append]

end Results

end Runner

end Conformance
