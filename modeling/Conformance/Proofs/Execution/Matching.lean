import Conformance.Proofs.Execution.Oracle
import Conformance.Proofs.Json.Grammar
import Conformance.Proofs.Json.Rendering
import Conformance.Proofs.Judgement

/-!
# Executions in the two modes

A text is valid JSON here if the reader accepts it: it is then a document of the grammar, and every
document with integers for numbers is accepted that nests no deeper than the reader allows.

Where exact texts are compared, a case passes for its expected text only. If that text is valid, the
case passes in the other mode as well, with the same result (`judge_json_of_pass`), and if not, it
never does (`status_judge_json`). So an execution in the one mode sends what it sends in the other
and loses no pass on valid texts (`execute_switched`).
-/

namespace Conformance

namespace Json

/-- The text is valid: the reader accepts it. -/
def Readable (text : String) : Prop := ∃ v, Json.read text = .ok v

theorem Renders.readable {v : Json} {text : String} (h : Renders v text) (hd : v.depth ≤ 127) :
    Readable text := by
  obtain ⟨w, hw, -⟩ := h.read hd
  exact ⟨w, hw⟩

theorem Readable.document {text : String} (h : Readable text) : DocumentText 127 text := by
  obtain ⟨v, hv⟩ := h
  exact document_of_read hv

end Json

namespace TestCase

variable {c : TestCase} {label : String} {a : Answer}

/-- A case does not pass as JSON if its expected text is none, whatever the answer is. -/
theorem status_judge_json (h : ¬ Json.Readable c.expected) :
    (c.judge .json label a).status = .fail := by
  rcases refused_or a with ha | ⟨response, rfl, hne⟩
  · exact c.status_judge_of_refused .json label ha
  rw [c.judge_of_response .json label hne]
  rcases hread : Json.read c.expected with f | v
  · simp only [MatchMode.compare, hread]
    rfl
  · exact absurd ⟨v, hread⟩ h

/-- A result that passes where exact texts are compared is the result as JSON, too. -/
theorem judge_json_of_pass (hread : Json.Readable c.expected)
    (h : (c.judge .exact label a).status = .pass) :
    c.judge .json label a = c.judge .exact label a := by
  obtain ⟨hne, rfl⟩ := (c.status_judge_exact label).1 h
  obtain ⟨v, hv⟩ := hread
  have hexact : MatchMode.exact.compare c.expected c.expected = .equal := by
    simp [MatchMode.compare, Verdict.ofEqual]
  have hjson : MatchMode.json.compare c.expected c.expected = .equal := by
    simp [MatchMode.compare, hv, Json.Agrees.refl, Verdict.ofEqual]
  rw [c.judge_of_response .json label hne, c.judge_of_response .exact label hne, hexact, hjson]

end TestCase

/-- What passes in the one list of results stands in the other at the same place. -/
def KeepsPasses (results results' : List TestResult) : Prop :=
  List.Forall₂ (fun r r' => r.status = .pass → r' = r) results results'

theorem KeepsPasses.idsOf {results results' : List TestResult} (h : KeepsPasses results results') :
    (Sink.idsOf .pass results).Sublist (Sink.idsOf .pass results') := by
  induction h with
  | nil => exact .slnil
  | @cons r r' rest rest' hr _ ih =>
    by_cases hpass : r.status = .pass
    · have hsame : r' = r := hr hpass
      subst hsame
      simp only [Sink.idsOf, List.filter_cons, hpass, decide_true, if_true, List.map_cons]
      exact ih.cons_cons r'.testId
    · have hdrop : Sink.idsOf .pass (r :: rest) = Sink.idsOf .pass rest := by
        simp [Sink.idsOf, hpass]
      have hgrow : (Sink.idsOf .pass rest').Sublist (Sink.idsOf .pass (r' :: rest')) :=
        ((List.sublist_cons_self r' rest').filter _).map _
      rw [hdrop]
      exact ih.trans hgrow

theorem KeepsPasses.append {results results' : List TestResult}
    (h : KeepsPasses results results') : ∀ before : List TestResult,
      KeepsPasses (before ++ results) (before ++ results')
  | [] => h
  | _ :: before => .cons (fun _ => rfl) (h.append before)

theorem keepsPasses_judged {label : String} {answers : Nat → Answer} :
    ∀ {cases : List TestCase} {n : Nat}, (∀ c ∈ cases, Json.Readable c.expected) →
      KeepsPasses (judged .exact label answers n cases) (judged .json label answers n cases)
  | [], _, _ => .nil
  | c :: rest, _, h => by
    rw [List.forall_mem_cons] at h
    exact .cons (TestCase.judge_json_of_pass h.1) (keepsPasses_judged h.2)

namespace Runner

section Modes

variable (config : Config) (catalogue : Catalogue) (label : String) (answers : Nat → Answer)
  (cases : List TestCase) (sink : Sink) (s : Session Nat)

/-- Against one oracle, executions in both modes record the same cases. Those are all, or the file
of the sink is not there and the first case fails for want of it. -/
theorem execute_modes : ∃ done sent recorded, recorded ⊆ cases ∧ (done = .ok () → recorded = cases)
    ∧ ∀ mode, ∃ sink' s',
      (Runner.mk { config with matchMode := mode } catalogue (.oracle label answers)).execute cases
          sink s = (done, sink', s')
        ∧ s'.sent = sent
        ∧ sink'.results = sink.results ++ judged mode label answers s.remote recorded
        ∧ sink'.passed
          = sink.passed ++ Sink.idsOf .pass (judged mode label answers s.remote recorded)
        ∧ sink'.failed
          = sink.failed ++ Sink.idsOf .fail (judged mode label answers s.remote recorded) := by
  have hspares := Transport.oracle_spares label answers
  by_cases hready : sink.Ready s.files
  · exact ⟨.ok (), s.sent ++ cases.flatMap TestCase.payloads, cases, List.Subset.refl _,
      fun _ => rfl, fun mode => execute_oracle_ready
        (r := ⟨{ config with matchMode := mode }, catalogue, .oracle label answers⟩) rfl cases
        hready⟩
  have hnone : ∀ mode, sink.results = sink.results ++ judged mode label answers s.remote []
      ∧ sink.passed = sink.passed ++ Sink.idsOf .pass (judged mode label answers s.remote [])
      ∧ sink.failed = sink.failed ++ Sink.idsOf .fail (judged mode label answers s.remote []) := by
    simp [judged, Sink.idsOf]
  rcases cases with _ | ⟨c, rest⟩
  · exact ⟨.ok (), s.sent, [], List.Subset.refl _, fun _ => rfl, fun mode =>
      ⟨sink, s, rfl, rfl, hnone mode⟩⟩
  · obtain ⟨e, he⟩ := Sink.record_of_not_ready hready
    refine ⟨.error e, s.sent ++ c.payloads, [], List.nil_subset _, by simp, fun mode =>
      ⟨sink, _, execute_cons_error ?_, ?_, hnone mode⟩⟩
    · rw [runCase_spares c hspares s]
      exact he _
    · rw [Session.sent_note, sent_runCase]

/-- Against one oracle, from whatever sink and session, executions in both modes end alike and send
the same requests. If all expected texts are valid, the passes among exact texts are passes as JSON,
in the same order and with the same results. A case of which the expected text is not valid fails as
JSON, whatever the answer is, and so in every execution that records it. A text is not valid unless
it is a document of the grammar, and all documents are valid that have integers for numbers and nest
no deeper than 127. -/
theorem execute_switched :
    let run (mode : MatchMode) :=
      (Runner.mk { config with matchMode := mode } catalogue (.oracle label answers)).execute cases
        sink s
    (run .json).1 = (run .exact).1
      ∧ (run .json).2.2.sent = (run .exact).2.2.sent
      ∧ ((∀ c ∈ cases, Json.Readable c.expected) →
        (run .exact).2.1.passed.Sublist (run .json).2.1.passed
        ∧ KeepsPasses (run .exact).2.1.results (run .json).2.1.results)
      ∧ (∀ c, ¬ Json.Readable c.expected →
        (∀ answer, (c.judge .json label answer).status = .fail)
        ∧ ((run .json).1 = .ok () → c ∈ cases → c.id ∈ (run .json).2.1.failed))
      ∧ (∀ text, Json.Readable text → Json.DocumentText 127 text)
      ∧ ∀ v text, v.depth ≤ 127 → Json.Renders v text → Json.Readable text := by
  intro run
  obtain ⟨done, sent, recorded, hsubset, hall, hrun⟩ :=
    execute_modes config catalogue label answers cases sink s
  obtain ⟨sinkE, sE, he, hsentE, hresE, hpassE, -⟩ := hrun .exact
  obtain ⟨sinkJ, sJ, hj, hsentJ, hresJ, hpassJ, hfailJ⟩ := hrun .json
  have hexact : run .exact = (done, sinkE, sE) := he
  have hjson : run .json = (done, sinkJ, sJ) := hj
  rw [hexact, hjson]
  refine ⟨rfl, hsentJ.trans hsentE.symm, fun hread => ?_, fun c hc =>
    ⟨fun answer => TestCase.status_judge_json hc, fun hdone hmem => ?_⟩,
    fun text => Json.Readable.document, fun v text hd h => h.readable hd⟩
  · have hkeeps : KeepsPasses (judged .exact label answers s.remote recorded)
        (judged .json label answers s.remote recorded) :=
      keepsPasses_judged fun c hc => hread c (hsubset hc)
    rw [hresE, hresJ, hpassE, hpassJ]
    exact ⟨hkeeps.idsOf.append_left _, hkeeps.append _⟩
  · obtain ⟨before, after, hcases⟩ := List.append_of_mem hmem
    rw [hfailJ, hall hdone, hcases, judged_append, judged_cons]
    refine List.mem_append_right _ (List.mem_map.2 ⟨_, List.mem_filter.2
      ⟨List.mem_append_right _ List.mem_cons_self, ?_⟩, c.testId_judge _ _ _⟩)
    exact decide_eq_true (TestCase.status_judge_json hc)

/-- Members in another order pass as JSON only, and what passes among exact texts passes still. -/
theorem execute_switched_order :
    let first : TestCase := ⟨"TCID1", "a", "", ["on"], "get", "[1,\"x\"]", none⟩
    let second : TestCase := ⟨"TCID2", "b", "", [], "put", "\x7b\"p\":1,\"q\":2\x7d", none⟩
    let answers : Nat → Answer := fun n =>
      .ok (if n = 1 then "[1,\"x\"]" else "\x7b\"q\":2,\"p\":1\x7d")
    let start := (Sink.new "rows.csv").reset .empty
    let run (mode : MatchMode) := (Runner.mk { matchMode := mode } ⟨[]⟩
      (.oracle "oracle" answers)).execute [first, second] start.2.1 (Session.start start.2.2 0)
    (∀ c ∈ [first, second], Json.Readable c.expected) ∧ (run .json).2.2.sent = (run .exact).2.2.sent
      ∧ (run .exact).2.1.passed = ["a"] ∧ (run .json).2.1.passed = ["a", "b"]
      ∧ (run .exact).2.1.passed.Sublist (run .json).2.1.passed := by
  intro first second answers start run
  have hfirst : Json.Readable first.expected :=
    ⟨.array [.int 1, .string "x"], by decide +kernel⟩
  have hsecond : Json.Readable second.expected :=
    ⟨.object [("p", .int 1), ("q", .int 2)], by decide +kernel⟩
  have hread : ∀ c ∈ [first, second], Json.Readable c.expected :=
    List.forall_mem_cons.2 ⟨hfirst, List.forall_mem_singleton.2 hsecond⟩
  obtain ⟨-, hsent, hpasses, -⟩ := execute_switched {} ⟨[]⟩ "oracle" answers [first, second]
    start.2.1 (Session.start start.2.2 0)
  exact ⟨hread, hsent, by decide +kernel, by decide +kernel, (hpasses hread).1⟩

end Modes

end Runner

end Conformance
