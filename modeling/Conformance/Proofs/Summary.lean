import Conformance.Proofs.Json.Meaning
import Conformance.Proofs.Json.Printer
import Conformance.Proofs.Report

/-!
# Reading the summary of a run

The summary nests three deep and holds texts only, so it reads back as the document that it was
(`read_summaryText`), whatever characters the report has. What another program finds in the file of
the summary is therefore the report itself (`summary_reads_back`).
-/

namespace Conformance

namespace Json

theorem depthItems_le {n : Nat} : ∀ {items : List Json}, (∀ v ∈ items, v.depth ≤ n) →
    depthItems items ≤ n
  | [], _ => Nat.zero_le n
  | v :: rest, h => by
    have ih := depthItems_le fun w hw => h w (List.mem_cons_of_mem v hw)
    exact Nat.max_le.2 ⟨h v List.mem_cons_self, ih⟩

theorem integralItems : ∀ {items : List Json}, (∀ v ∈ items, v.Integral) → IntegralItems items
  | [], _ => trivial
  | v :: _, h =>
    ⟨h v List.mem_cons_self, integralItems fun w hw => h w (List.mem_cons_of_mem v hw)⟩

theorem itemData_map_string : ∀ texts : List String,
    itemData (texts.map .string) = texts.map .string
  | [] => rfl
  | _ :: rest => congrArg _ (itemData_map_string rest)

end Json

open Json

/-- The datum is an object that gives the row under the names of its fields. -/
def Row.Shown (r : Row) (d : Datum) : Prop :=
  ∃ value, d = .object value ∧ value "test_id" = some (.string r.testId)
    ∧ value "response" = some (.string r.response)
    ∧ value "status" = some (.string r.status.name)
    ∧ value "message" = some (.string r.message)

theorem Row.shown_summary (r : Row) : r.Shown r.summary.datum :=
  ⟨_, rfl, rfl, rfl, rfl, rfl⟩

namespace RunReport

variable (r : RunReport)

theorem depth_summary : r.summary.depth ≤ 127 := by
  have hrows : depthItems (r.rows.map Row.summary) ≤ 1 := by
    refine depthItems_le fun v hv => ?_
    obtain ⟨row, -, rfl⟩ := List.mem_map.1 hv
    exact Nat.le_refl 1
  have htexts : ∀ texts : List String, depthItems (texts.map .string) ≤ 0 := by
    refine fun texts => depthItems_le fun v hv => ?_
    obtain ⟨text, -, rfl⟩ := List.mem_map.1 hv
    exact Nat.le_refl 0
  have hpassed := htexts r.passed
  have hfailed := htexts r.failed
  simp only [summary, depth, depthMembers]
  omega

theorem integral_summary : r.summary.Integral := by
  have htexts : ∀ texts : List String, IntegralItems (texts.map .string) := by
    refine fun texts => integralItems fun v hv => ?_
    obtain ⟨text, -, rfl⟩ := List.mem_map.1 hv
    trivial
  have hrows : IntegralItems (r.rows.map Row.summary) := by
    refine integralItems fun v hv => ?_
    obtain ⟨row, -, rfl⟩ := List.mem_map.1 hv
    exact ⟨trivial, trivial, trivial, trivial, trivial⟩
  exact ⟨trivial, trivial, hrows, htexts r.passed, htexts r.failed, trivial⟩

/-- The text of a summary is that of one document, the summary. -/
theorem read_summaryText : Json.read r.summaryText = .ok r.summary :=
  read_pretty r.depth_summary r.integral_summary

theorem shown_rows : ∀ rows : List Row,
    List.Forall₂ Row.Shown rows (itemData (rows.map Row.summary))
  | [] => .nil
  | row :: rest => .cons row.shown_summary (shown_rows rest)

/-- The text of a summary is a document that gives back the build, the rows and the ids of the
report in their order, and it is what is found where the summary was written. -/
theorem summary_reads_back :
    (∃ v value rows, Json.read r.summaryText = .ok v ∧ v.datum = .object value
      ∧ value "build_name" = some (.string r.buildName)
      ∧ value "started_at" = some (.string r.started.internet)
      ∧ value "rows" = some (.array rows) ∧ List.Forall₂ Row.Shown r.rows rows
      ∧ value "passed" = some (.array (r.passed.map .string))
      ∧ value "failed" = some (.array (r.failed.map .string)))
    ∧ ∀ {dir path : String} {t u : FileTree}, Report.writeSummary r dir t = (.ok path, u) →
      path = Path.join dir "test-results.json" ∧ u.readText path = .ok r.summaryText := by
  refine ⟨⟨r.summary, _, _, r.read_summaryText, rfl, rfl, rfl, rfl, shown_rows r.rows, ?_, ?_⟩, ?_⟩
  · exact congrArg (fun data => some (Datum.array data)) (itemData_map_string r.passed)
  · exact congrArg (fun data => some (Datum.array data)) (itemData_map_string r.failed)
  · intro dir path t u h
    exact Report.readText_writeInto h

/-- Quotes, backslashes, controls and characters beyond them come back from the file. -/
theorem summary_reads_back_controls :
    let r : RunReport :=
      ⟨"b\"\\", default, [⟨"a", "\x00\x1f\x7f\r\n é😀", .fail, ""⟩], [], ["a", "\t"]⟩
    ∃ u v value rows, Report.writeSummary r "out" .empty = (.ok "out/test-results.json", u)
      ∧ u.readText "out/test-results.json" = .ok r.summaryText
      ∧ Json.read r.summaryText = .ok v ∧ v.datum = .object value
      ∧ value "build_name" = some (.string "b\"\\")
      ∧ value "rows" = some (.array rows) ∧ List.Forall₂ Row.Shown r.rows rows
      ∧ value "failed" = some (.array [.string "a", .string "\t"]) := by
  intro r
  have hpath : (Report.writeSummary r "out" .empty).1.toOption = some "out/test-results.json" := by
    decide +kernel
  rcases h : Report.writeSummary r "out" .empty with ⟨result, u⟩
  rw [h] at hpath
  obtain ⟨path, rfl, rfl⟩ := exists_ok_of_toOption (f := id) (by simpa using hpath)
  obtain ⟨⟨v, value, rows, hread, hv, hbuild, -, hrows, hshown, -, hfailed⟩, hfile⟩ :=
    r.summary_reads_back
  exact ⟨u, v, value, rows, rfl, (hfile h).2, hread, hv, hbuild, hrows, hshown, hfailed⟩

end RunReport

end Conformance
