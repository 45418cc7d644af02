import Conformance.Proofs.Sink
import Conformance.Run

/-!
# Executing cases

A case sends its setup requests and then its request, whatever comes back (`sent_runCase`), and its
result is judged from the answer to that request alone (`runCase_fst`). So an execution that records
every case has sent all requests in order (`sent_execute`), has one result for each case and keeps
the file of the sink in step with them (`execute_ok`). A transport that leaves files alone lets
every case be recorded (`execute_ready`).
-/

namespace Conformance

variable {σ : Type}

/-- The requests that a case sends, in order. -/
def TestCase.payloads (c : TestCase) : List String := c.setup ++ [c.request]

@[simp] theorem TestCase.testId_judge (c : TestCase) (mode : MatchMode) (label : String)
    (a : Answer) : (c.judge mode label a).testId = c.id := by
  unfold judge
  split
  · rfl
  · split <;> rfl

namespace Session

@[simp] theorem files_note (lines : Log) (s : Session σ) : (s.note lines).files = s.files := rfl

@[simp] theorem remote_note (lines : Log) (s : Session σ) : (s.note lines).remote = s.remote := rfl

@[simp] theorem files_withFiles (files : FileTree) (s : Session σ) :
    (s.withFiles files).files = files := rfl

@[simp] theorem remote_withFiles (files : FileTree) (s : Session σ) :
    (s.withFiles files).remote = s.remote := rfl

end Session

namespace Transport

/-- Whatever is sent, the files before and after it are related. -/
def Leaves (R : FileTree → FileTree → Prop) (t : Transport σ) : Prop :=
  ∀ payload state files, R files (t.send payload state files).files

/-- A transport that does not touch files. -/
def SparesFiles (t : Transport σ) : Prop := t.Leaves fun before after => after = before

/-- A transport that may remove files and directories and changes nothing else. -/
def OnlyRemoves (t : Transport σ) : Prop := t.Leaves fun before after => after.Within before

/-- A transport that does no more to what the path finds than to remove it. -/
def OnlyRemovesAt (path : String) (t : Transport σ) : Prop :=
  t.Leaves fun before after => after.FoundIn path before

theorem OnlyRemoves.at {t : Transport σ} (h : t.OnlyRemoves) (path : String) :
    t.OnlyRemovesAt path := fun payload state files => (h payload state files).foundIn path

theorem SparesFiles.onlyRemovesAt {t : Transport σ} (h : t.SparesFiles) (path : String) :
    t.OnlyRemovesAt path := fun payload state files =>
  (h payload state files).symm ▸ FileTree.FoundIn.refl path files

end Transport

namespace Runner

variable (r : Runner σ) (c : TestCase)

section Case

theorem sendSetup_cons (payload : String) (rest : List String) (s : Session σ) :
    r.sendSetup c (payload :: rest) s = r.sendSetup c rest
      ((s.send r.transport payload).2.note (c.setupLog (s.send r.transport payload).1)) := rfl

theorem sent_sendSetup : ∀ (payloads : List String) (s : Session σ),
    (r.sendSetup c payloads s).sent = s.sent ++ payloads
  | [], s => by simp [sendSetup]
  | payload :: rest, s => by
    rw [sendSetup_cons, sent_sendSetup rest]
    simp

/-- A case sends its requests in order, whatever the answers are. -/
theorem sent_runCase (s : Session σ) : (r.runCase c s).2.sent = s.sent ++ c.payloads := by
  unfold runCase TestCase.payloads
  simp only [Session.sent_note, Session.sent_send, sent_sendSetup, List.append_assoc]

/-- The result of a case is judged from the answer to its request. -/
theorem runCase_fst (s : Session σ) :
    (r.runCase c s).1 = c.judge r.config.matchMode r.transport.label
      ((r.sendSetup c c.setup (s.note c.announcement)).send r.transport c.request).1 := rfl

theorem testId_runCase (s : Session σ) : (r.runCase c s).1.testId = c.id := by
  rw [runCase_fst, TestCase.testId_judge]

variable {R : FileTree → FileTree → Prop} (refl : ∀ t, R t t)
  (trans : ∀ t u v, R t u → R u v → R t v) (ht : r.transport.Leaves R)
include refl trans ht

theorem leaves_sendSetup : ∀ (payloads : List String) (s : Session σ),
    R s.files (r.sendSetup c payloads s).files
  | [], s => refl s.files
  | payload :: rest, s => by
    have ih := leaves_sendSetup rest
      ((s.send r.transport payload).2.note (c.setupLog (s.send r.transport payload).1))
    rw [sendSetup_cons]
    exact trans _ _ _ (ht payload s.remote s.files) ih

/-- A case leads from files to related files, as each of its requests does. -/
theorem leaves_runCase (s : Session σ) : R s.files (r.runCase c s).2.files :=
  trans _ _ _ (leaves_sendSetup r c refl trans ht c.setup (s.note c.announcement))
    (ht c.request _ _)

end Case

section Cases

variable {r}

theorem execute_nil (sink : Sink) (s : Session σ) : r.execute [] sink s = (.ok (), sink, s) := rfl

theorem runCase_foundIn {path : String} (ht : r.transport.OnlyRemovesAt path) (s : Session σ) :
    (r.runCase c s).2.files.FoundIn path s.files :=
  leaves_runCase r c (R := fun before after => after.FoundIn path before)
    (FileTree.FoundIn.refl path) (fun _ _ _ h h' => h'.trans h) ht s

theorem runCase_spares (ht : r.transport.SparesFiles) (s : Session σ) :
    (r.runCase c s).2.files = s.files :=
  leaves_runCase r c (R := fun before after => after = before) (fun _ => rfl)
    (fun _ _ _ h h' => h'.trans h) ht s

section Cons

variable {c : TestCase} {rest : List TestCase} {sink : Sink} {s : Session σ}

/-- Behind a case that was recorded, an execution goes on with the others. -/
theorem execute_cons_of_record {next : Sink} {files : FileTree}
    (h : sink.record (r.runCase c s).1 (r.runCase c s).2.files = .ok (next, files)) :
    r.execute (c :: rest) sink s
      = r.execute rest next
        (((r.runCase c s).2.note [(r.runCase c s).1.line]).withFiles files) := by
  rw [execute]
  simp only [Session.files_note, Sink.store_of_record h]

/-- A case that cannot be recorded is the last that is executed. -/
theorem execute_cons_error {e : Failure}
    (h : sink.record (r.runCase c s).1 (r.runCase c s).2.files = .error e) :
    r.execute (c :: rest) sink s
      = (.error e, sink, (r.runCase c s).2.note [(r.runCase c s).1.line]) := by
  rw [execute]
  simp only [Session.files_note, Sink.store_of_record_error h]
  rfl

/-- An execution that records every case goes on behind the record of its first. -/
theorem execute_cons_ok {sink' : Sink} {s' : Session σ}
    (h : r.execute (c :: rest) sink s = (.ok (), sink', s')) :
    ∃ next files, sink.record (r.runCase c s).1 (r.runCase c s).2.files = .ok (next, files)
      ∧ r.execute rest next (((r.runCase c s).2.note [(r.runCase c s).1.line]).withFiles files)
        = (.ok (), sink', s') := by
  rcases hr : sink.record (r.runCase c s).1 (r.runCase c s).2.files with e | ⟨next, files⟩
  · rw [execute_cons_error hr] at h
    simp at h
  · rw [execute_cons_of_record hr] at h
    exact ⟨next, files, rfl, h⟩

end Cons

/-- What the record of each case keeps is kept by an execution that records every case. -/
theorem invariant_execute {I : Sink → FileTree → Prop}
    (step : ∀ (c : TestCase) (sink : Sink) (s : Session σ) (files : FileTree),
      sink.record (r.runCase c s).1 (r.runCase c s).2.files
          = .ok (sink.add (r.runCase c s).1, files) →
        I sink s.files → I (sink.add (r.runCase c s).1) files) :
    ∀ {cases : List TestCase} {sink sink' : Sink} {s s' : Session σ},
      r.execute cases sink s = (.ok (), sink', s') → I sink s.files → I sink' s'.files
  | [], sink, sink', s, s', h, hi => by
    simp only [execute_nil, Prod.mk.injEq, true_and] at h
    exact h.1 ▸ h.2 ▸ hi
  | c :: rest, sink, sink', s, s', h, hi => by
    obtain ⟨next, files, hr, h⟩ := execute_cons_ok h
    obtain ⟨rfl, -⟩ := Sink.record_ok hr
    exact invariant_execute step h (step c sink s files hr hi)

/-- The lists grow by the ids of the results that an execution adds. -/
theorem lists_execute {cases : List TestCase} {sink sink' : Sink} {s s' : Session σ}
    (h : r.execute cases sink s = (.ok (), sink', s')) :
    ∃ added, sink'.results = sink.results ++ added
      ∧ sink'.passed = sink.passed ++ Sink.idsOf .pass added
      ∧ sink'.failed = sink.failed ++ Sink.idsOf .fail added := by
  refine invariant_execute (I := fun next _ => ∃ added, next.results = sink.results ++ added
    ∧ next.passed = sink.passed ++ Sink.idsOf .pass added
    ∧ next.failed = sink.failed ++ Sink.idsOf .fail added) ?_ h ⟨[], by simp [Sink.idsOf]⟩
  rintro c next s files - ⟨added, hresults, hpassed, hfailed⟩
  obtain ⟨hp, hf⟩ := Sink.lists_add next (r.runCase c s).1
  refine ⟨added ++ [(r.runCase c s).1], ?_, ?_, ?_⟩
  · rw [Sink.results_add, hresults, List.append_assoc]
  · rw [hp, hpassed, Sink.idsOf_concat, List.append_assoc]
  · rw [hf, hfailed, Sink.idsOf_concat, List.append_assoc]

/-- An execution that records every case has sent the requests of all cases in order. -/
theorem sent_execute : ∀ {cases : List TestCase} {sink sink' : Sink} {s s' : Session σ},
    r.execute cases sink s = (.ok (), sink', s') →
      s'.sent = s.sent ++ cases.flatMap TestCase.payloads
  | [], sink, sink', s, s', h => by
    simp only [execute_nil, Prod.mk.injEq, true_and] at h
    simp [h.2]
  | c :: rest, sink, sink', s, s', h => by
    obtain ⟨next, files, -, h⟩ := execute_cons_ok h
    rw [sent_execute h]
    simp [sent_runCase]

/-- An execution that records every case adds one result with its id for each. -/
theorem ids_execute : ∀ {cases : List TestCase} {sink sink' : Sink} {s s' : Session σ},
    r.execute cases sink s = (.ok (), sink', s') →
      sink'.results.map (·.testId) = sink.results.map (·.testId) ++ cases.map (·.id)
  | [], sink, sink', s, s', h => by
    simp only [execute_nil, Prod.mk.injEq, true_and] at h
    simp [h.1]
  | c :: rest, sink, sink', s, s', h => by
    obtain ⟨next, files, hr, h⟩ := execute_cons_ok h
    obtain ⟨rfl, -⟩ := Sink.record_ok hr
    rw [ids_execute h, Sink.results_add]
    simp [testId_runCase]

section Invariants

variable {cases : List TestCase} {sink sink' : Sink} {s s' : Session σ}
  (h : r.execute cases sink s = (.ok (), sink', s'))
include h

theorem consistent_execute (hc : sink.Consistent) : sink'.Consistent :=
  invariant_execute (I := fun sink _ => sink.Consistent)
    (fun _ _ _ _ _ hc => Sink.consistent_add hc _) h hc

theorem path_execute : sink'.path = sink.path :=
  invariant_execute (I := fun next _ => next.path = sink.path)
    (fun _ next _ _ _ hp => (Sink.path_add next _).trans hp) h rfl

/-- Recorded cases keep the file of the sink in step with the results. -/
theorem holds_execute (ht : r.transport.OnlyRemovesAt sink.path) (hh : sink.Holds s.files) :
    sink'.Holds s'.files := by
  refine (invariant_execute (I := fun next files => next.path = sink.path ∧ next.Holds files)
    ?_ h ⟨rfl, hh⟩).2
  rintro c next s files hr ⟨hpath, hh⟩
  rw [← hpath] at ht
  exact ⟨(Sink.path_add next _).trans hpath, (Sink.holds_record (runCase_foundIn c ht s) hh hr).2⟩

end Invariants

/-- What an execution keeps that records every case: the lists are those of the results, the file
holds them, and each case adds one result with its id. -/
theorem execute_ok (ht : r.transport.OnlyRemoves) {cases : List TestCase} {sink sink' : Sink}
    {s s' : Session σ} (h : r.execute cases sink s = (.ok (), sink', s')) (hc : sink.Consistent)
    (hh : sink.Holds s.files) :
    sink'.Consistent ∧ sink'.Holds s'.files
      ∧ sink'.results.map (·.testId) = sink.results.map (·.testId) ++ cases.map (·.id) :=
  ⟨consistent_execute h hc, holds_execute h (ht.at sink.path) hh, ids_execute h⟩

/-- Where the file of the sink is there, a transport that leaves files alone lets every case be
recorded. -/
theorem execute_ready (ht : r.transport.SparesFiles) :
    ∀ (cases : List TestCase) {sink : Sink} {s : Session σ}, sink.Ready s.files →
      ∃ sink' s', r.execute cases sink s = (.ok (), sink', s')
  | [], sink, s, _ => ⟨sink, s, rfl⟩
  | c :: rest, sink, s, hready => by
    obtain ⟨u, hr, hnext⟩ := Sink.record_of_ready hready (r.runCase c s).1
    obtain ⟨sink', s', h⟩ := execute_ready ht rest
      (s := ((r.runCase c s).2.note [(r.runCase c s).1.line]).withFiles u) hnext
    rw [← runCase_spares c ht s] at hr
    exact ⟨sink', s', (execute_cons_of_record hr).trans h⟩

end Cases

end Runner

end Conformance
