import Conformance.Proofs.Execution

/-!
# How a case is judged

A request is refused if it has no response or an empty one. Nothing but a refusal leaves the
observed text of a result empty, and nothing else lets its message begin as that of a failed request
does, for the sentence of a verdict begins otherwise whatever it quotes (`not_invokeFailed`). So the
result of a case is either that of a refusal or that of the verdict on its response, and the row of
the result tells which (`runCase_judged`).
-/

namespace Conformance

variable {σ : Type}

/-- The answer is no response, or an empty one. -/
def Refused (a : Answer) : Prop := (∃ e, a = .error e) ∨ a = .ok ""

theorem not_refused {response : String} : ¬ Refused (.ok response) ↔ response ≠ "" := by
  simp [Refused]

theorem refused_or (a : Answer) : Refused a ∨ ∃ response, a = .ok response ∧ response ≠ "" := by
  rcases a with e | response
  · exact .inl (.inl ⟨e, rfl⟩)
  by_cases h : response = ""
  · exact .inl (.inr (congrArg Except.ok h))
  · exact .inr ⟨response, rfl, h⟩

namespace Verdict

theorem head?_message (v : Verdict) :
    v.message.toList.head? = some 'O' ∨ v.message.toList.head? = some 'E' := by
  rcases v with _ | _ | _ | problem
  · exact .inl rfl
  · exact .inl rfl
  · exact .inl rfl
  · have hmessage : (expectedNotJson problem).message
        = "Expected response is not valid JSON: " ++ problem := rfl
    rw [hmessage, String.toList_append, List.head?_append]
    exact .inr rfl

/-- No sentence of a verdict, whatever stands behind it, begins as that of a failed request. -/
theorem not_invokeFailed (v : Verdict) (tail : String) :
    ¬ invokeFailed.toList <+: (v.message ++ tail).toList := by
  rintro ⟨rest, h⟩
  have hfirst : invokeFailed.toList.head? = some 'R' := by simp [invokeFailed]
  have hhead := congrArg List.head? h
  rw [String.toList_append, List.head?_append, List.head?_append, hfirst] at hhead
  rcases v.head?_message with hv | hv <;> simp [hv] at hhead

end Verdict

namespace TestCase

variable (c : TestCase) (mode : MatchMode) (label : String)

theorem judge_of_refused {a : Answer} (h : Refused a) :
    ∃ reason, c.judge mode label a = c.unanswered label reason := by
  rcases h with ⟨e, rfl⟩ | rfl
  · exact ⟨e.message, rfl⟩
  · exact ⟨"empty response", rfl⟩

theorem judge_of_response {response : String} (h : response ≠ "") :
    c.judge mode label (.ok response)
      = ⟨c.id, response, (mode.compare response c.expected).status,
        c.verdictMessage (mode.compare response c.expected)⟩ := by
  rw [judge]
  simp only [if_neg h]

theorem invokeFailed_unanswered (reason : String) :
    invokeFailed.toList <+: (c.unanswered label reason).message.toList := by
  simp only [unanswered, String.toList_append, List.append_assoc]
  exact List.prefix_append _ _

theorem exists_verdictMessage (v : Verdict) : ∃ tail, c.verdictMessage v = v.message ++ tail := by
  unfold verdictMessage
  split
  next detail _ _ => exact ⟨". " ++ detail, by rw [String.append_assoc]⟩
  next => exact ⟨"", by rw [String.append_empty]⟩

theorem verdictMessage_of_detail {v : Verdict} {detail : String} (hv : v.status = .pass)
    (hd : c.passDetail = some detail) : c.verdictMessage v = v.message ++ ". " ++ detail := by
  simp only [verdictMessage, hv, hd]

theorem verdictMessage_of_none {v : Verdict} (h : v.status = .fail ∨ c.passDetail = none) :
    c.verdictMessage v = v.message := by
  rcases h with h | h
  · rcases hd : c.passDetail with _ | detail <;> simp only [verdictMessage, h, hd]
  · simp only [verdictMessage, h]

theorem status_compare_exact {response expected : String} :
    (MatchMode.exact.compare response expected).status = .pass ↔ response = expected := by
  rw [MatchMode.compare]
  by_cases h : response = expected
  · rw [beq_iff_eq.2 h]
    exact iff_of_true rfl h
  · rw [beq_eq_false_iff_ne.2 h]
    exact iff_of_false Status.noConfusion h

/-- No response is as expected where an empty text is expected. -/
theorem status_compare_empty {response : String} (h : response ≠ "") :
    (mode.compare response "").status = .fail := by
  rcases mode with _ | _
  · rcases hv : (MatchMode.exact.compare response "").status with _ | _
    · exact absurd (status_compare_exact.1 hv) h
    · rfl
  · rfl

section Answers

variable {a : Answer}

theorem status_judge_of_refused (h : Refused a) : (c.judge mode label a).status = .fail := by
  obtain ⟨reason, hreason⟩ := c.judge_of_refused mode label h
  rw [hreason]
  rfl

theorem observed_judge : (c.judge mode label a).observed = "" ↔ Refused a := by
  rcases refused_or a with h | ⟨response, rfl, hne⟩
  · obtain ⟨reason, hreason⟩ := c.judge_of_refused mode label h
    rw [hreason]
    exact iff_of_true rfl h
  · rw [c.judge_of_response mode label hne]
    exact iff_of_false hne (not_refused.2 hne)

theorem invokeFailed_judge :
    invokeFailed.toList <+: (c.judge mode label a).message.toList ↔ Refused a := by
  rcases refused_or a with h | ⟨response, rfl, hne⟩
  · obtain ⟨reason, hreason⟩ := c.judge_of_refused mode label h
    rw [hreason]
    exact iff_of_true (c.invokeFailed_unanswered label reason) h
  · obtain ⟨tail, htail⟩ := c.exists_verdictMessage (mode.compare response c.expected)
    rw [c.judge_of_response mode label hne]
    simp only [htail]
    exact iff_of_false (Verdict.not_invokeFailed _ tail) (not_refused.2 hne)

theorem status_judge_of_empty (h : c.expected = "") : (c.judge mode label a).status = .fail := by
  rcases refused_or a with ha | ⟨response, rfl, hne⟩
  · exact c.status_judge_of_refused mode label ha
  · rw [c.judge_of_response mode label hne, h]
    exact status_compare_empty mode hne

/-- Where exact texts are compared, a case passes for its expected text only, and only if that is
not empty. -/
theorem status_judge_exact :
    (c.judge .exact label a).status = .pass ↔ c.expected ≠ "" ∧ a = .ok c.expected := by
  rcases refused_or a with h | ⟨response, rfl, hne⟩
  · rw [c.status_judge_of_refused .exact label h]
    refine iff_of_false Status.noConfusion ?_
    rintro ⟨hexpected, rfl⟩
    exact not_refused.2 hexpected h
  · rw [c.judge_of_response .exact label hne, status_compare_exact, Except.ok.injEq]
    constructor
    · rintro rfl
      exact ⟨hne, rfl⟩
    · exact And.right

end Answers

end TestCase

namespace Runner

/-- The result of a case has no observed text, and a message that begins as that of a failed
request, exactly if the answer to its request is refused, and then the case fails. Otherwise the
observed text is the response, the status is that of the verdict on it, and the message that of the
verdict, followed by the case's own sentence exactly if it has one and passes. So nothing passes
where an empty text is expected, and whoever reads the rows of any results can tell from that of the
case whether its request was refused. -/
theorem runCase_judged (r : Runner σ) (c : TestCase) (s : Session σ) :
    let answer := ((r.sendSetup c c.setup (s.note c.announcement)).send r.transport c.request).1
    let result := (r.runCase c s).1
    (result.observed = "" ↔ Refused answer)
    ∧ (invokeFailed.toList <+: result.message.toList ↔ Refused answer)
    ∧ (Refused answer → result.status = .fail)
    ∧ (∀ response, answer = .ok response → response ≠ "" →
      let verdict := r.config.matchMode.compare response c.expected
      result.observed = response ∧ result.status = verdict.status
      ∧ (∀ detail, verdict.status = .pass → c.passDetail = some detail →
        result.message = verdict.message ++ ". " ++ detail)
      ∧ (verdict.status = .fail ∨ c.passDetail = none → result.message = verdict.message))
    ∧ (c.expected = "" → result.status = .fail)
    ∧ ∀ path before after, ∃ row,
      Sink.rowsOf path (Sink.fileText (before ++ result :: after))
        = .ok (before.map TestResult.row ++ row :: after.map TestResult.row)
      ∧ (row.response = "" ↔ Refused answer)
      ∧ (invokeFailed.toList <+: row.message.toList ↔ Refused answer) := by
  intro answer result
  have hresult : result = c.judge r.config.matchMode r.transport.label answer := r.runCase_fst c s
  clear_value answer result
  subst hresult
  have hobserved := c.observed_judge r.config.matchMode r.transport.label (a := answer)
  have hmessage := c.invokeFailed_judge r.config.matchMode r.transport.label (a := answer)
  refine ⟨hobserved, hmessage, c.status_judge_of_refused _ _, ?_, c.status_judge_of_empty _ _, ?_⟩
  · rintro response rfl hne verdict
    rw [c.judge_of_response _ _ hne]
    exact ⟨rfl, rfl, fun detail => c.verdictMessage_of_detail, c.verdictMessage_of_none⟩
  · intro path before after
    refine ⟨TestResult.row _, ?_, hobserved, hmessage⟩
    rw [Sink.rowsOf_fileText, List.map_append, List.map_cons]

end Runner

end Conformance
