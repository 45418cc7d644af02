import Conformance.Proofs.Execution
import Conformance.Proofs.FileTree.Place
import Conformance.Proofs.Report
import Mathlib.Logic.Relation

/-!
# What happens to files

Between two moments of a run, `Effects` tells what happened to the files: requests were sent,
directories made, and texts written or appended at some paths. The sink writes its header and its
rows at its own path (`effects_reset`, `effects_execute`), the report its page and its summary
(`effects_render`). What is not at the place of such a path, and what the transport leaves alone,
stays as it was (`Effects.sameAt`).
-/

namespace Conformance

open Relation (ReflTransGen)

variable {σ : Type}

/-- One thing done to files: a request is sent, directories are made, or a text is written or
appended at a path as `writes` allows it. -/
inductive Effect (t : Transport σ) (writes : String → String → Prop) : FileTree → FileTree → Prop
  | sent (payload : String) (state : σ) (files : FileTree) :
    Effect t writes files (t.send payload state files).files
  | directories (path : String) (files : FileTree) :
    Effect t writes files (files.makeDirectories path).2
  | written {path text : String} {files after : FileTree} (allowed : writes path text)
    (done : files.writeText path text = .ok after) : Effect t writes files after
  | appended {path text : String} {files after : FileTree} (allowed : writes path text)
    (done : files.appendText path text = .ok after) : Effect t writes files after

/-- Things done to files, one after the other. -/
abbrev Effects (t : Transport σ) (writes : String → String → Prop) :
    FileTree → FileTree → Prop := ReflTransGen (Effect t writes)

section Writes

/-- What a sink writes: the header or a row, at its path. -/
def Sink.Writes (sinkPath : String) (path text : String) : Prop :=
  path = sinkPath ∧ (text = Csv.line Sink.header ∨ ∃ r : TestResult, text = Csv.line r.row.fields)

/-- What a report writes into a directory: its page or its summary, under their names. -/
def Report.Writes (dir : String) (r : RunReport) (path text : String) : Prop :=
  path = Path.join dir r.pageName ∧ text = r.page
    ∨ path = Path.join dir RunReport.summaryName ∧ text = r.summaryText

end Writes

section Effects

variable {t : Transport σ} {writes writes' : String → String → Prop} {before after : FileTree}

theorem Effect.mono (h : ∀ path text, writes path text → writes' path text)
    (he : Effect t writes before after) : Effect t writes' before after := by
  cases he with
  | sent payload state => exact .sent payload state before
  | directories path => exact .directories path before
  | written allowed done => exact .written (h _ _ allowed) done
  | appended allowed done => exact .appended (h _ _ allowed) done

theorem Effects.mono (h : ∀ path text, writes path text → writes' path text)
    (he : Effects t writes before after) : Effects t writes' before after :=
  he.lift id fun _ _ => Effect.mono h

theorem Effect.sameAt {p : Place} (ht : t.Leaves (FileTree.SameAt p))
    (hp : ∀ path text, writes path text → FileTree.place before.home path ≠ p)
    (he : Effect t writes before after) : FileTree.SameAt p before after := by
  cases he with
  | sent payload state => exact ht payload state before
  | directories path => exact FileTree.sameAt_makeDirectories p before path
  | written allowed done => exact FileTree.sameAt_write done (hp _ _ allowed)
  | appended allowed done => exact FileTree.sameAt_append done (hp _ _ allowed)

/-- A file stays as it is at a place that the transport leaves alone and that no written path leads
to. -/
theorem Effects.sameAt {p : Place} (ht : t.Leaves (FileTree.SameAt p))
    (hp : ∀ path text, writes path text → FileTree.place before.home path ≠ p)
    (he : Effects t writes before after) : FileTree.SameAt p before after := by
  induction he with
  | refl => exact FileTree.SameAt.refl p before
  | tail _ he ih => exact ih.trans (he.sameAt ht (ih.home ▸ hp))

end Effects

section Sink

variable (t : Transport σ)

theorem effects_reset (s : Sink) (files : FileTree) :
    Effects t (Sink.Writes s.path) files (s.reset files).2.2 := by
  have hdirs : Effect t (Sink.Writes s.path) files
      (files.makeDirectories ((Path.parent? s.path).getD "")).2 := .directories _ files
  rcases Sink.reset_cases s files with ⟨e, -, hfiles⟩ | ⟨-, hw⟩
  · exact hfiles ▸ .single hdirs
  · exact .tail (.single hdirs) (.written ⟨rfl, .inl rfl⟩ hw)

theorem Effects.of_record {s s' : Sink} {r : TestResult} {files after : FileTree}
    (h : s.record r files = .ok (s', after)) :
    Effects t (Sink.Writes s.path) files after :=
  .single (.appended ⟨rfl, .inr ⟨r, rfl⟩⟩ (Sink.record_ok h).2)

end Sink

namespace Runner

variable (r : Runner σ)

theorem effects_runCase (writes : String → String → Prop) (c : TestCase) (s : Session σ) :
    Effects r.transport writes s.files (r.runCase c s).2.files :=
  leaves_runCase r c (R := Effects r.transport writes) (fun _ => .refl) (fun _ _ _ => .trans)
    (fun payload state files => .single (.sent payload state files)) s

/-- While cases are executed, requests are sent and the sink writes, and nothing else happens. -/
theorem effects_execute : ∀ (cases : List TestCase) (sink : Sink) (s : Session σ),
    Effects r.transport (Sink.Writes sink.path) s.files (r.execute cases sink s).2.2.files
  | [], _, _ => .refl
  | c :: rest, sink, s => by
    have hc := r.effects_runCase (Sink.Writes sink.path) c s
    rcases hr : sink.record (r.runCase c s).1 (r.runCase c s).2.files with e | ⟨next, files⟩
    · rw [execute_cons_error hr]
      exact hc
    · have ih := effects_execute rest next
        (((r.runCase c s).2.note [(r.runCase c s).1.line]).withFiles files)
      rw [execute_cons_of_record hr]
      rw [(Sink.record_ok hr).1, Sink.path_add] at ih
      rw [(Sink.record_ok hr).1]
      exact (hc.trans (Effects.of_record r.transport hr)).trans ih

end Runner

namespace Report

variable (t : Transport σ)

theorem effects_writeInto {writes : String → String → Prop} {dir name text : String}
    (h : writes (Path.join dir name) text) (files : FileTree) :
    Effects t writes files (writeInto dir name text files).2 := by
  have hdirs : Effect t writes files (files.makeDirectories dir).2 := .directories dir files
  rcases writeInto_cases dir name text files with ⟨e, he⟩ | ⟨u, hu, hw⟩
  · rw [he]
    exact .single hdirs
  · rw [hu]
    exact .tail (.single hdirs) (.written h hw)

theorem effects_writePage (report : RunReport) (dir : String) (files : FileTree) :
    Effects t (Writes dir report) files (writePage report dir files).2 :=
  effects_writeInto t (.inl ⟨rfl, rfl⟩) files

theorem effects_writeSummary (report : RunReport) (dir : String) (files : FileTree) :
    Effects t (Writes dir report) files (writeSummary report dir files).2 :=
  effects_writeInto t (.inr ⟨rfl, rfl⟩) files

theorem collect_fields {s : Sink} {buildName : String} {started : Clock} {files : FileTree}
    {report : RunReport} (h : collect s buildName started files = .ok report) :
    report.buildName = buildName ∧ report.started = started ∧ report.passed = s.passed
      ∧ report.failed = s.failed := by
  obtain ⟨rows, -, hrows⟩ := bind_eq_ok_iff.1 h
  simp only [pure_eq_ok, Except.ok.injEq] at hrows
  rw [← hrows]
  exact ⟨rfl, rfl, rfl, rfl⟩

/-- Where a report is rendered, its page and its summary are written, or neither. -/
theorem effects_render (s : Sink) (dir buildName : String) (started : Clock) (files : FileTree) :
    Effects t (fun path text => ∃ report : RunReport, report.buildName = buildName
        ∧ report.started = started ∧ Writes dir report path text)
      files (render s dir buildName started files).2.1 := by
  unfold render
  rcases hr : collect s buildName started files with e | report
  · exact .refl
  obtain ⟨hname, hstarted, -⟩ := collect_fields hr
  suffices h : Effects t (Writes dir report) files _ from
    h.mono fun path text h => ⟨report, hname, hstarted, h⟩
  have hpage := effects_writePage t report dir files
  rcases hp : writePage report dir files with ⟨e | page, u⟩ <;> rw [hp] at hpage
  · simpa only [hp] using hpage
  · have hsummary := effects_writeSummary t report dir u
    rcases hs : writeSummary report dir u with ⟨e | summary, v⟩ <;> rw [hs] at hsummary
    · simpa only [hp, hs] using hpage.trans hsummary
    · simpa only [hp, hs] using hpage.trans hsummary

end Report

end Conformance
