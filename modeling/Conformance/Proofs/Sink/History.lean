import Conformance.Proofs.Sink

/-!
# What can happen to a sink

A sink lives through resets and records, each of which may fail, and the files around it may change
in other ways at any time. `step_consistent` is what every event keeps, and `step_holds` what an
event keeps that spares the file; `history_of_new` puts both together for every run from a new sink.
-/

namespace Conformance.Sink

/-- What can happen to a sink and the files around it. -/
inductive Event where
  /-- The sink is reset, as far as the files let it. -/
  | reset
  /-- A reset fails for another reason and leaves some files. -/
  | failedReset (f : FileTree → FileTree)
  /-- A result is recorded, as far as the files let it. -/
  | record (r : TestResult)
  /-- The device refuses a result, and its file stays as it is. -/
  | failedRecord (r : TestResult)
  /-- Something else changes the files. -/
  | change (f : FileTree → FileTree)

/-- A sink and the files after an event. -/
def step (s : Sink × FileTree) : Event → Sink × FileTree
  | .reset => (s.1.reset s.2).2
  | .failedReset f => (s.1.cleared, f s.2)
  | .record r => (s.1.store r s.2).2
  | .failedRecord _ => s
  | .change f => (s.1, f s.2)

/-- A sink and the files after some events. -/
def run (s : Sink × FileTree) (events : List Event) : Sink × FileTree := events.foldl step s

/-- The event is no reset, and only a record changes what the path finds. -/
def Event.Spares (path : String) : Event → Prop
  | .reset | .failedReset _ => False
  | .record _ | .failedRecord _ => True
  | .change f => ∀ t, (f t).find path = t.find path

variable {s : Sink × FileTree}

theorem step_record_error {r : TestResult} {e : Failure} (h : s.1.record r s.2 = .error e) :
    step s (.record r) = s := by
  simp only [step, store_of_record_error h]

theorem path_step (s : Sink × FileTree) (e : Event) : (step s e).1.path = s.1.path := by
  rcases e with _ | f | r | r | f
  · rfl
  · rfl
  · rcases s.1.store_cases r s.2 with ⟨e, h, -⟩ | ⟨u, h, -⟩ <;> simp only [step, h]
    rw [path_add]
  · rfl
  · rfl

theorem path_run : ∀ (events : List Event) (s : Sink × FileTree), (run s events).1.path = s.1.path
  | [], _ => rfl
  | e :: events, s => (path_run events (step s e)).trans (path_step s e)

theorem step_reset_holds (h : (s.1.reset s.2).1 = .ok ()) :
    (step s .reset).1.Holds (step s .reset).2 := by
  simp only [step, sink_reset]
  exact holds_reset h

/-- Every event keeps the lists those of the results. -/
theorem step_consistent (h : s.1.Consistent) (e : Event) : (step s e).1.Consistent := by
  rcases e with _ | f | r | r | f
  · exact consistent_cleared s.1
  · exact consistent_cleared s.1
  · rcases s.1.store_cases r s.2 with ⟨e, hr, -⟩ | ⟨u, hr, -⟩ <;> simp only [step, hr]
    · exact h
    · exact consistent_add h r
  · exact h
  · exact h

theorem consistent_run : ∀ (events : List Event) {s : Sink × FileTree}, s.1.Consistent →
    (run s events).1.Consistent
  | [], _, h => h
  | e :: events, _, h => consistent_run events (step_consistent h e)

/-- An event that spares the file keeps it a file of the results. -/
theorem step_holds {e : Event} (he : e.Spares s.1.path) (h : s.1.Holds s.2) :
    (step s e).1.Holds (step s e).2 := by
  rcases e with _ | f | r | r | f
  · exact he.elim
  · exact he.elim
  · rcases s.1.store_cases r s.2 with ⟨e, hs, -⟩ | ⟨u, hs, hr, -⟩ <;> simp only [step, hs]
    · exact h
    · exact (holds_record (FileTree.FoundIn.refl _ s.2) h hr).2
  · exact h
  · obtain ⟨p, x, hf⟩ := h
    exact ⟨p, x, (he s.2).trans hf⟩

theorem holds_run : ∀ (events : List Event) {s : Sink × FileTree},
    (∀ e ∈ events, e.Spares s.1.path) → s.1.Holds s.2 → (run s events).1.Holds (run s events).2
  | [], _, _, h => h
  | e :: events, s, hs, h => by
    refine holds_run events (fun f hf => ?_) (step_holds (hs e List.mem_cons_self) h)
    rw [path_step]
    exact hs f (List.mem_cons_of_mem e hf)

/-- Whatever happens to a new sink, its lists are the ids of its results by status, and a record
that fails changes nothing. If only records and what spares the file came after a reset that
succeeded, the file holds the header and a line for each result, and reads back as their rows. -/
theorem history_of_new (path : String) (t : FileTree) (events : List Event) :
    let s := run (new path, t) events
    s.1.passed = idsOf .pass s.1.results
      ∧ s.1.failed = idsOf .fail s.1.results
      ∧ s.1.executed = s.1.results.length
      ∧ (∀ r e, s.1.record r s.2 = .error e → step s (.record r) = s)
      ∧ ∀ before after, events = before ++ .reset :: after →
        let b := run (new path, t) before
        (b.1.reset b.2).1 = .ok () →
        (∀ e ∈ after, e.Spares path) →
          s.2.readText path = .ok (fileText s.1.results)
            ∧ readRows path s.2 = .ok (s.1.results.map TestResult.row) := by
  intro s
  have hc : s.1.Consistent := consistent_run events (consistent_new path)
  refine ⟨hc.passed, hc.failed, hc.executed_eq, fun r e h => step_record_error h, ?_⟩
  intro before after he b hb ha
  have hs : s = run (step b .reset) after := by
    simp only [s, b, run, he, List.foldl_append, List.foldl_cons]
  have hpath : (step b .reset).1.path = path :=
    (path_step b .reset).trans (path_run before (new path, t))
  have hh : s.1.Holds s.2 := by
    rw [hs]
    refine holds_run after ?_ (step_reset_holds hb)
    rw [hpath]
    exact ha
  have hsp : s.1.path = path := path_run events (new path, t)
  rw [← hsp]
  exact ⟨readText_of_holds hh, readRows_of_holds hh⟩

/-- A history with a broken reset, a refused record and fields full of marks and line breaks. -/
theorem history_of_new_marks :
    let marks : TestResult := ⟨"a,b", "\"x\"\r\ny\r", .fail, ""⟩
    let plain : TestResult := ⟨"", "é", .pass, ","⟩
    let before : List Event := [.failedReset fun _ => .empty]
    let after : List Event := [.record marks, .failedRecord plain, .record plain]
    let b := run (new "rows.csv", .empty) before
    let s := run (new "rows.csv", .empty) (before ++ .reset :: after)
    b.1.record marks b.2 = .error (.file .notFound) ∧ step b (.record marks) = b
      ∧ (b.1.reset b.2).1 = .ok () ∧ (∀ e ∈ after, e.Spares "rows.csv")
      ∧ s.1.passed = [""] ∧ s.1.failed = ["a,b"]
      ∧ readRows "rows.csv" s.2 = .ok [marks.row, plain.row] := by
  intro marks plain before after b s
  have hbefore : b = (new "rows.csv", .empty) := rfl
  have hfail : b.1.record marks b.2 = .error (.file .notFound) := by
    rw [hbefore]
    rfl
  have hreset : (b.1.reset b.2).1 = .ok () := by
    rw [hbefore]
    rfl
  have hafter : ∀ e ∈ after, e.Spares "rows.csv" := by simp [after, Event.Spares]
  have hresults : s.1.results = [marks, plain] := by decide +kernel
  have hb := history_of_new "rows.csv" .empty before
  obtain ⟨hp, hf, -, -, hfile⟩ := history_of_new "rows.csv" .empty (before ++ .reset :: after)
  have hrows := (hfile before after rfl hreset hafter).2
  refine ⟨hfail, hb.2.2.2.1 marks _ hfail, hreset, hafter, ?_, ?_, ?_⟩
  · exact hp.trans (by rw [hresults]; rfl)
  · exact hf.trans (by rw [hresults]; rfl)
  · exact hrows.trans (by rw [hresults]; rfl)

end Conformance.Sink
