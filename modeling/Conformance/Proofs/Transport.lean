import Conformance.Proofs.Judgement
import Conformance.Transport.Connected

/-!
# Responses of processes

What a process wrote is a response if the process ended with status zero and the bytes encode a
text, of which one line end is taken off. So a response comes of three outputs at most
(`stripLineEnd_eq_iff`): of itself, unless a line feed at its end would be taken off, of itself in
front of a line feed, unless its own carriage return would be taken off too, and of itself in front
of both. Where exact texts are compared, a case passes for these outputs of its expected text and
for no others, whatever host starts the process (`curl_passes_iff`).

Files change as far as the processes of the host change them, and not at all over a network
(`connect_leaves`). So a host whose processes write no file leaves the sink to the run
(`connect_onlyRemovesAt`).
-/

namespace Conformance

theorem Text.decode?_eq_some_iff {bytes : ByteArray} {text : String} :
    Text.decode? bytes = some text ↔ bytes = text.toUTF8 := by
  unfold Text.decode? String.fromUTF8?
  constructor
  · intro h
    split at h
    · cases h
      rfl
    · cases h
  · rintro rfl
    rw [String.toUTF8_eq_toByteArray, dif_pos text.isValidUTF8]
    rfl

section LineEnds

variable {text response : String}

theorem stripLineEnd_of_ne (h : text.toList.getLast? ≠ some '\n') : stripLineEnd text = text := by
  rw [← List.head?_reverse] at h
  unfold stripLineEnd
  split
  next hrest => simp [hrest] at h
  next hrest => simp [hrest] at h
  next => rfl

theorem stripLineEnd_feed (h : response.toList.getLast? ≠ some '\r') :
    stripLineEnd (response ++ "\n") = response := by
  rw [← List.head?_reverse] at h
  have hrev : (response ++ "\n").toList.reverse = '\n' :: response.toList.reverse := by simp
  unfold stripLineEnd
  rw [hrev]
  split
  next hrest =>
    rw [List.cons.inj hrest |>.2] at h
    exact absurd rfl h
  next hrest =>
    rw [← List.cons.inj hrest |>.2, List.reverse_reverse, String.ofList_toList]
  next hno => exact absurd rfl (hno _)

theorem stripLineEnd_returnFeed (response : String) :
    stripLineEnd (response ++ "\r\n") = response := by
  unfold stripLineEnd
  rw [String.toList_append, List.reverse_append]
  simp

theorem exists_append_of_getLast? {c : Char} (h : text.toList.getLast? = some c) :
    ∃ front, text = front ++ String.singleton c := by
  obtain ⟨front, hfront⟩ := List.getLast?_eq_some_iff.1 h
  refine ⟨String.ofList front, String.toList_injective ?_⟩
  simp [hfront]

theorem stripLineEnd_eq_iff :
    stripLineEnd text = response ↔ (text = response ∧ response.toList.getLast? ≠ some '\n')
      ∨ (text = response ++ "\n" ∧ response.toList.getLast? ≠ some '\r')
      ∨ text = response ++ "\r\n" := by
  constructor
  · rintro rfl
    by_cases hfeed : text.toList.getLast? = some '\n'
    · obtain ⟨front, rfl⟩ := exists_append_of_getLast? hfeed
      by_cases hreturn : front.toList.getLast? = some '\r'
      · obtain ⟨start, rfl⟩ := exists_append_of_getLast? hreturn
        rw [String.append_assoc]
        exact .inr (.inr (congrArg (· ++ "\r\n") (stripLineEnd_returnFeed start).symm))
      · have hstrip : stripLineEnd (front ++ String.singleton '\n') = front :=
          stripLineEnd_feed hreturn
        rw [hstrip]
        exact .inr (.inl ⟨rfl, hreturn⟩)
    · rw [stripLineEnd_of_ne hfeed]
      exact .inl ⟨rfl, hfeed⟩
  · rintro (⟨rfl, h⟩ | ⟨rfl, h⟩ | rfl)
    · exact stripLineEnd_of_ne h
    · exact stripLineEnd_feed h
    · exact stripLineEnd_returnFeed response

end LineEnds

/-- The process ended with status zero, and its output is the response, alone or in front of one
line end. -/
def Ended.Delivers (e : Ended) (response : String) : Prop :=
  e.code = some 0 ∧ ((e.out = response.toUTF8 ∧ response.toList.getLast? ≠ some '\n')
    ∨ (e.out = (response ++ "\n").toUTF8 ∧ response.toList.getLast? ≠ some '\r')
    ∨ e.out = (response ++ "\r\n").toUTF8)

namespace Curl

variable {program : String} {e : Ended} {response : String}

theorem answerOf_eq_ok_iff : answerOf program e = .ok response ↔ e.Delivers response := by
  unfold Ended.Delivers answerOf
  split
  next hcode =>
    rw [and_iff_right hcode]
    split
    next text htext =>
      rw [Except.ok.injEq, stripLineEnd_eq_iff]
      have hout := Text.decode?_eq_some_iff.1 htext
      simp only [hout, String.toUTF8_eq_toByteArray, String.toByteArray_inj]
    next hnone =>
      have hno : ∀ text : String, e.out ≠ text.toUTF8 := fun text h =>
        Option.some_ne_none text ((Text.decode?_eq_some_iff.2 h).symm.trans hnone)
      refine iff_of_false (by simp) ?_
      rintro (⟨h, -⟩ | ⟨h, -⟩ | h) <;> exact hno _ h
  next hcode => simp [hcode]

theorem answer_eq_ok_iff {ended : Except SpawnError Ended} :
    answer program ended = .ok response ↔ ∃ e, ended = .ok e ∧ e.Delivers response := by
  rcases ended with f | e
  · simp [answer]
  · simp [answer, answerOf_eq_ok_iff]

theorem out_of_delivers (h : e.Delivers response) :
    ∃ lineEnd ∈ ["", "\n", "\r\n"], e.out = response.toUTF8 ++ lineEnd.toUTF8 := by
  simp only [String.toUTF8_eq_toByteArray, ← String.toByteArray_append]
  rcases h.2 with ⟨h, -⟩ | ⟨h, -⟩ | h
  · exact ⟨"", by simp, by rw [h, String.append_empty, String.toUTF8_eq_toByteArray]⟩
  · exact ⟨"\n", by simp, h⟩
  · exact ⟨"\r\n", by simp, h⟩

theorem eq_of_delivers {other : String} (h : e.Delivers response) (h' : e.Delivers other) :
    response = other := by
  have hanswer := (@answerOf_eq_ok_iff "" e response).2 h
  exact Except.ok.inj (hanswer.symm.trans (answerOf_eq_ok_iff.2 h'))

theorem delivers_empty (hcode : e.code = some 0) {lineEnd : String}
    (hmem : lineEnd ∈ ["", "\n", "\r\n"]) (h : e.out = lineEnd.toUTF8) : e.Delivers "" := by
  simp only [List.mem_cons, List.not_mem_nil, or_false] at hmem
  rcases hmem with rfl | rfl | rfl
  · exact ⟨hcode, .inl ⟨h, by simp⟩⟩
  · exact ⟨hcode, .inr (.inl ⟨h, by simp⟩)⟩
  · exact ⟨hcode, .inr (.inr h)⟩

/-- Bytes that encode no text deliver nothing, and a line end delivers the empty response only. -/
theorem not_delivers (hne : response ≠ "")
    (h : e.code ≠ some 0 ∨ ¬ e.out.IsValidUTF8
      ∨ ∃ lineEnd ∈ ["", "\n", "\r\n"], e.out = lineEnd.toUTF8) : ¬ e.Delivers response := by
  intro hdelivers
  rcases h with h | h | ⟨lineEnd, hmem, h⟩
  · exact h hdelivers.1
  · obtain ⟨lineEnd, -, hout⟩ := out_of_delivers hdelivers
    rw [String.toUTF8_eq_toByteArray, String.toUTF8_eq_toByteArray,
      ← String.toByteArray_append] at hout
    exact h (hout ▸ (response ++ lineEnd).isValidUTF8)
  · exact hne (eq_of_delivers hdelivers (delivers_empty hdelivers.1 hmem h))

/-- Behind the response, an output has nothing but a line end. -/
theorem not_delivers_more {more : ByteArray} (h : e.out = response.toUTF8 ++ more)
    (hmore : ∀ lineEnd ∈ ["", "\n", "\r\n"], more ≠ lineEnd.toUTF8) : ¬ e.Delivers response := by
  intro hdelivers
  obtain ⟨lineEnd, hmem, hout⟩ := out_of_delivers hdelivers
  exact hmore lineEnd hmem ((ByteArray.append_right_inj _).1 (h.symm.trans hout))

end Curl

section Files

variable {σ : Type} {launch : Launcher σ}

/-- Whatever is started, the files before and after it are related. -/
def Launcher.Leaves (R : FileTree → FileTree → Prop) (launch : Launcher σ) : Prop :=
  ∀ program arguments state files, R files (launch program arguments state files).files

theorem Transport.http_spares (network : Network) (endpoint : String) :
    (Transport.http network endpoint : Transport σ).SparesFiles := fun _ _ _ => rfl

/-- A transport does to files what the processes of its host do. -/
theorem Transport.connect_leaves {R : FileTree → FileTree → Prop} (refl : ∀ t, R t t)
    (h : launch.Leaves R) (network : Network) (c : Config) :
    (Transport.connect launch network c).Leaves R := by
  unfold connect
  rcases c.channel with _ | _
  · exact fun payload => h c.curlBinary (Curl.arguments c.endpoint _ payload)
  · intro payload state files
    rw [Transport.http_spares network c.endpoint payload state files]
    exact refl files

/-- Where processes write no file, a transport does not touch the sink. -/
theorem Transport.connect_onlyRemovesAt (h : launch.Leaves fun before after => after = before)
    (network : Network) (c : Config) (path : String) :
    (Transport.connect launch network c).OnlyRemovesAt path := by
  have hspares : (Transport.connect launch network c).SparesFiles :=
    connect_leaves (R := fun before after => after = before) (fun _ => rfl) h network c
  exact hspares.onlyRemovesAt path

end Files

namespace Runner

section Verdicts

variable {σ : Type} (r : Runner σ) (c : TestCase) (s : Session σ) {program endpoint : String}
  {timeoutMs : Option Nat}

/-- Where exact texts are compared, a case passes if the process of its request ends with status
zero and writes the expected text, which is not empty, alone or in front of one line end, and for no
other output: for none that encodes no text or only a line end, and for none that goes on otherwise
behind the expected text. -/
theorem curl_passes_iff (launch : Launcher σ)
    (hcurl : r.transport = .curl launch program endpoint timeoutMs)
    (hmode : r.config.matchMode = .exact) :
    let ready := r.sendSetup c c.setup (s.note c.announcement)
    let ended := (launch program (Curl.arguments endpoint timeoutMs c.request) ready.remote
      ready.files).ended
    let status := (r.runCase c s).1.status
    (status = .pass ↔ c.expected ≠ "" ∧ ∃ e, ended = .ok e ∧ e.Delivers c.expected)
    ∧ ∀ e, ended = .ok e →
      (status = .pass ↔ c.expected ≠ "" ∧ e.Delivers c.expected)
      ∧ (e.code ≠ some 0 ∨ ¬ e.out.IsValidUTF8
        ∨ (∃ lineEnd ∈ ["", "\n", "\r\n"], e.out = lineEnd.toUTF8) → status ≠ .pass)
      ∧ ∀ more, e.out = c.expected.toUTF8 ++ more →
        (∀ lineEnd ∈ ["", "\n", "\r\n"], more ≠ lineEnd.toUTF8) → status ≠ .pass := by
  intro ready ended status
  have hpass : status = .pass ↔ c.expected ≠ "" ∧ ∃ e, ended = .ok e ∧ e.Delivers c.expected := by
    have hjudged : status = (c.judge .exact "curl" (Curl.answer program ended)).status := by
      rw [← hmode]
      simp only [status, runCase_fst, hcurl]
      rfl
    rw [hjudged, c.status_judge_exact, Curl.answer_eq_ok_iff]
  refine ⟨hpass, fun e he => ?_⟩
  have hended : status = .pass ↔ c.expected ≠ "" ∧ e.Delivers c.expected := by
    rw [hpass, he]
    simp
  refine ⟨hended, fun h hstatus => ?_, fun more h hmore hstatus => ?_⟩
  · obtain ⟨hne, hdelivers⟩ := hended.1 hstatus
    exact Curl.not_delivers hne h hdelivers
  · exact Curl.not_delivers_more h hmore (hended.1 hstatus).2

/-- A device that answers the second call with a text and a line end: the case passes that expects
this text, and the one does not that expects its beginning. -/
theorem curl_passes_switched :
    let launch : Launcher Nat := fun _ _ calls files =>
      ⟨.ok ⟨some 0, (if calls = 0 then "ok\n" else "on\r\n").toUTF8, .empty⟩, calls + 1, files⟩
    let r : Runner Nat := ⟨{}, ⟨[]⟩, .curl launch "curl" "http://host" none⟩
    let c (expected : String) : TestCase := ⟨"TCID1", "a", "", ["switch"], "get", expected, none⟩
    (r.runCase (c "on") (.start .empty 0)).1.status = .pass
      ∧ (r.runCase (c "o") (.start .empty 0)).1.status ≠ .pass := by
  intro launch r c
  have hcurl : r.transport = .curl launch "curl" "http://host" none := rfl
  have hon := (curl_passes_iff r (c "on") (.start .empty 0) launch hcurl rfl).1
  have ho := (curl_passes_iff r (c "o") (.start .empty 0) launch hcurl rfl).2
  have hmore : "on\r\n".toUTF8 = "o".toUTF8 ++ "n\r\n".toUTF8 := by decide
  refine ⟨hon.2 ⟨by decide, _, rfl, rfl, .inr (.inr rfl)⟩, ?_⟩
  exact (ho _ rfl).2.2 "n\r\n".toUTF8 hmore (by decide)

end Verdicts

end Runner

end Conformance
