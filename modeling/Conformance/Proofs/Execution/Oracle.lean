import Conformance.Proofs.Execution

/-!
# Executions against an oracle

An oracle answers the sends of an execution by their number. The requests that it gets do not depend
on its answers, and of these only the one to a case's own request has a part in the case's result
(`results_execute`), so two oracles that agree there give the case the same result
(`execute_oracle`).
-/

namespace Conformance

/-- The transport that answers each send by its number and leaves files alone. -/
def Transport.oracle (label : String) (answers : Nat → Answer) : Transport Nat where
  label := label
  send _ n files := ⟨answers n, n + 1, files⟩

theorem Transport.oracle_spares (label : String) (answers : Nat → Answer) :
    (oracle label answers).SparesFiles := fun _ _ _ => rfl

/-- The number, from zero, of the send of a case's request behind the cases before it. -/
def requestIndex (before : List TestCase) (c : TestCase) : Nat :=
  (before.flatMap TestCase.payloads).length + c.setup.length

theorem TestCase.length_payloads (c : TestCase) : c.payloads.length = c.setup.length + 1 := by
  simp [payloads]

/-- The results of cases, of which the first sends its first request under number `n`. -/
def judged (mode : MatchMode) (label : String) (answers : Nat → Answer) :
    Nat → List TestCase → List TestResult
  | _, [] => []
  | n, c :: rest =>
    c.judge mode label (answers (n + c.setup.length))
      :: judged mode label answers (n + c.payloads.length) rest

section Judged

variable (mode : MatchMode) (label : String) (answers : Nat → Answer)

theorem judged_cons (n : Nat) (c : TestCase) (rest : List TestCase) :
    judged mode label answers n (c :: rest)
      = c.judge mode label (answers (n + c.setup.length))
        :: judged mode label answers (n + c.payloads.length) rest := rfl

theorem length_judged : ∀ (n : Nat) (cases : List TestCase),
    (judged mode label answers n cases).length = cases.length
  | _, [] => rfl
  | n, c :: rest => by
    rw [judged_cons, List.length_cons, List.length_cons, length_judged]

theorem judged_append : ∀ (n : Nat) (before cases : List TestCase),
    judged mode label answers n (before ++ cases)
      = judged mode label answers n before
        ++ judged mode label answers (n + (before.flatMap TestCase.payloads).length) cases
  | _, [], _ => rfl
  | n, c :: before, cases => by
    have ih := judged_append (n + c.payloads.length) before cases
    have hn : n + ((c :: before).flatMap TestCase.payloads).length
        = n + c.payloads.length + (before.flatMap TestCase.payloads).length := by
      simp only [List.flatMap_cons, List.length_append]
      omega
    rw [hn, List.cons_append, judged_cons, judged_cons, ih, List.cons_append]

/-- The result of a case is judged from the answer to its request. -/
theorem getElem?_judged (before after : List TestCase) (c : TestCase) :
    (judged mode label answers 0 (before ++ c :: after))[before.length]?
      = some (c.judge mode label (answers (requestIndex before c))) := by
  have hlen := length_judged mode label answers 0 before
  rw [judged_append, List.getElem?_append_right (Nat.le_of_eq hlen), hlen, Nat.sub_self,
    judged_cons, List.getElem?_cons_zero, Nat.zero_add]
  rfl

end Judged

namespace Runner

variable {r : Runner Nat} {label : String} {answers : Nat → Answer}

theorem remote_sendSetup (ht : r.transport = .oracle label answers) (c : TestCase) :
    ∀ (payloads : List String) (s : Session Nat),
      (r.sendSetup c payloads s).remote = s.remote + payloads.length
  | [], s => rfl
  | payload :: rest, s => by
    have hs : (s.send r.transport payload).2.remote = s.remote + 1 := by
      rw [ht]
      rfl
    rw [sendSetup_cons, remote_sendSetup ht c rest, Session.remote_note, hs, List.length_cons]
    omega

theorem runCase_oracle (ht : r.transport = .oracle label answers) (c : TestCase)
    (s : Session Nat) :
    (r.runCase c s).1
        = c.judge r.config.matchMode label (answers (s.remote + c.setup.length))
      ∧ (r.runCase c s).2.remote = s.remote + c.payloads.length := by
  have hn := remote_sendSetup ht c c.setup (s.note c.announcement)
  rw [Session.remote_note] at hn
  have hsend : ∀ s' : Session Nat, (s'.send r.transport c.request).1 = answers s'.remote
      ∧ (s'.send r.transport c.request).2.remote = s'.remote + 1 := by
    rw [ht]
    exact fun _ => ⟨rfl, rfl⟩
  obtain ⟨h1, h2⟩ := hsend (r.sendSetup c c.setup (s.note c.announcement))
  constructor
  · rw [runCase_fst, h1, hn, ht]
    rfl
  · rw [c.length_payloads, ← Nat.add_assoc, ← hn, ← h2]
    rfl

/-- The results that an execution adds are judged, case by case, from the answers to the cases' own
requests. -/
theorem results_execute (ht : r.transport = .oracle label answers) :
    ∀ {cases : List TestCase} {sink sink' : Sink} {s s' : Session Nat},
      r.execute cases sink s = (.ok (), sink', s') →
        sink'.results
          = sink.results ++ judged r.config.matchMode label answers s.remote cases
  | [], sink, sink', s, s', h => by
    simp only [execute_nil, Prod.mk.injEq, true_and] at h
    simp [h.1, judged]
  | c :: rest, sink, sink', s, s', h => by
    obtain ⟨next, files, hr, h⟩ := execute_cons_ok h
    obtain ⟨rfl, -⟩ := Sink.record_ok hr
    obtain ⟨hres, hrem⟩ := runCase_oracle ht c s
    rw [results_execute ht h, Session.remote_withFiles, Session.remote_note, hrem,
      Sink.results_add, hres]
    simp [judged]

/-- Where the file of the sink is there, an execution against an oracle records every case. -/
theorem execute_oracle_ready (ht : r.transport = .oracle label answers) (cases : List TestCase)
    {sink : Sink} {s : Session Nat} (hready : sink.Ready s.files) :
    ∃ sink' s', r.execute cases sink s = (.ok (), sink', s')
      ∧ s'.sent = s.sent ++ cases.flatMap TestCase.payloads
      ∧ sink'.results
        = sink.results ++ judged r.config.matchMode label answers s.remote cases
      ∧ sink'.passed = sink.passed
        ++ Sink.idsOf .pass (judged r.config.matchMode label answers s.remote cases)
      ∧ sink'.failed = sink.failed
        ++ Sink.idsOf .fail (judged r.config.matchMode label answers s.remote cases) := by
  have hspares : r.transport.SparesFiles := ht ▸ Transport.oracle_spares label answers
  obtain ⟨sink', s', h⟩ := execute_ready hspares cases hready
  obtain ⟨added, hadded, hpassed, hfailed⟩ := lists_execute h
  have hresults := results_execute ht h
  have hjudged := List.append_cancel_left (hadded.symm.trans hresults)
  subst hjudged
  exact ⟨sink', s', h, sent_execute h, hadded, hpassed, hfailed⟩

/-- Behind a reset that succeeded, an execution against any oracle records every case, having sent
the setup requests and the request of each case in order. The result of a case is judged from the
answer to its own request, so an oracle with the same answer there gives it the same result. -/
theorem execute_oracle (config : Config) (catalogue : Catalogue) (label : String)
    (cases : List TestCase) (sink : Sink) (files : FileTree) (h : (sink.reset files).1 = .ok ())
    (answers : Nat → Answer) :
    let run (answers : Nat → Answer) :=
      (Runner.mk config catalogue (.oracle label answers)).execute cases (sink.reset files).2.1
        (Session.start (sink.reset files).2.2 0)
    (run answers).1 = .ok ()
      ∧ (run answers).2.2.sent = cases.flatMap (fun c => c.setup ++ [c.request])
      ∧ (run answers).2.1.results.length = cases.length
      ∧ ∀ before c after, cases = before ++ c :: after →
        (run answers).2.1.results[before.length]?
            = some (c.judge config.matchMode label (answers (requestIndex before c)))
          ∧ ∀ answers' : Nat → Answer,
            answers' (requestIndex before c) = answers (requestIndex before c) →
              (run answers').2.1.results[before.length]?
                = (run answers).2.1.results[before.length]? := by
  intro run
  have hh : (sink.reset files).2.1.Holds (Session.start (sink.reset files).2.2 0).files := by
    rw [Sink.sink_reset]
    exact Sink.holds_reset h
  have hrun : ∀ a : Nat → Answer, (run a).1 = .ok ()
      ∧ (run a).2.2.sent = cases.flatMap TestCase.payloads
      ∧ (run a).2.1.results = judged config.matchMode label a 0 cases := by
    intro a
    obtain ⟨sink', s', he, hsent, hres, -⟩ := execute_oracle_ready
      (r := ⟨config, catalogue, .oracle label a⟩) rfl cases hh.ready
    rw [Sink.sink_reset] at hres
    simp only [run, he]
    exact ⟨trivial, hsent, hres⟩
  obtain ⟨hok, hsent, hres⟩ := hrun answers
  refine ⟨hok, hsent, ?_, ?_⟩
  · rw [hres, length_judged]
  · rintro before c after rfl
    refine ⟨?_, fun answers' ha => ?_⟩
    · rw [hres, getElem?_judged]
    · rw [(hrun answers').2.2, hres, getElem?_judged, getElem?_judged, ha]

/-- Two oracles that part in the answers to the first case and agree in that to the second. -/
theorem execute_oracle_second :
    let first : TestCase := ⟨"TCID1", "a", "", ["on"], "get", "yes", none⟩
    let second : TestCase := ⟨"TCID2", "b", "", [], "put", "yes", none⟩
    let some' : Nat → Answer := fun n => if n = 2 then .ok "yes" else .error .notText
    let every : Nat → Answer := fun _ => .ok "yes"
    let start := (Sink.new "rows.csv").reset .empty
    let run (answers : Nat → Answer) := (Runner.mk {} ⟨[]⟩ (.oracle "oracle" answers)).execute
      [first, second] start.2.1 (Session.start start.2.2 0)
    start.1 = .ok () ∧ every (requestIndex [first] second) = some' (requestIndex [first] second)
      ∧ (run some').2.2.sent = ["on", "get", "put"]
      ∧ (run some').2.1.results[1]?
        = some ⟨"b", "yes", .pass, "Output response is matching with expected one"⟩
      ∧ (run every).2.1.results[1]? = (run some').2.1.results[1]? := by
  intro first second some' every start run
  have hreset : start.1 = .ok () := rfl
  have hagree : every (requestIndex [first] second) = some' (requestIndex [first] second) := rfl
  obtain ⟨-, hsent, -, hres⟩ := execute_oracle {} ⟨[]⟩ "oracle" [first, second]
    (Sink.new "rows.csv") .empty hreset some'
  obtain ⟨h1, h2⟩ := hres [first] second [] rfl
  exact ⟨hreset, hagree, hsent, h1, h2 every hagree⟩

end Runner

end Conformance
