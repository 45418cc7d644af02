import Conformance.Proofs.Clock
import Conformance.Proofs.Execution.Oracle
import Conformance.Proofs.Report
import Conformance.Proofs.Stages

/-!
# Which files a run writes

A run writes its sink, its page and its summary, and nothing else (`effects_run`). The names of page
and summary are single names in every configuration that passes `check`, so both lie inside the
output directory (`inside_pagePath`, `inside_summaryPath`). The path of the sink is not checked: it
lies inside exactly if the setting has names, none of which leads upwards, or is the absolute path
of a place inside (`inside_csvPath_iff`).
-/

namespace Conformance

namespace Config

variable {c : Config}

/-- What a configuration that passes `check` is made of. -/
theorem check_eq_ok_iff : c.check = .ok () ↔ Text.allBlank c.endpoint = false
    ∧ Text.allBlank c.buildName = false
    ∧ (c.buildName.toList.any fun x => x = '/' || x = '\\') = false
    ∧ Text.allBlank c.csvFile = false ∧ c.timeout ≠ some 0 := by
  unfold check
  generalize c.buildName.toList.any (fun x => x = '/' || x = '\\') = separated
  split_ifs <;> simp_all

theorem slash_notMem_buildName (hc : c.check = .ok ()) : '/' ∉ c.buildName.toList := by
  intro h
  have hany := List.any_eq_false.1 (check_eq_ok_iff.1 hc).2.2.1 '/' h
  simp at hany

/-- The name of the page of a run that started at the given time. -/
def pageName (c : Config) (started : Clock) : String :=
  RunReport.pageName ⟨c.buildName, started, [], [], []⟩

/-- The path of the page of a run that started at the given time. -/
def pagePath (c : Config) (started : Clock) : String := Path.join c.outputDir (c.pageName started)

/-- The path of the summary. -/
def summaryPath (c : Config) : String := Path.join c.outputDir RunReport.summaryName

/-- The setting for the sink has names, none of which leads upwards, or it is an absolute path into
the output directory. -/
def SinkStays (c : Config) : Prop :=
  if Path.isAbsolute c.csvFile then Path.Inside c.outputDir c.csvFile
  else Path.names c.csvFile ≠ [] ∧ ".." ∉ Path.names c.csvFile

theorem inside_csvPath_iff (c : Config) :
    Path.Inside c.outputDir c.csvPath ↔ c.SinkStays := by
  unfold csvPath SinkStays
  rcases habs : Path.isAbsolute c.csvFile with _ | _
  · simpa using Path.inside_join_iff c.outputDir habs
  · rw [Path.join_of_isAbsolute _ habs, if_pos rfl]

section Names

variable (hc : c.check = .ok ()) (started : Clock)

theorem pageName_ne {s : String} (h : s.toList.getLast? ≠ some 'l') : c.pageName started ≠ s := by
  rintro rfl
  exact h (Report.getLast?_pageName _)

include hc

theorem slash_notMem_pageName : '/' ∉ (c.pageName started).toList := by
  have hbuild := slash_notMem_buildName hc
  have hline : '/' ∉ "_".toList := by decide
  have hend : '/' ∉ ".html".toList := by decide
  simp only [pageName, RunReport.pageName, String.toList_append, List.mem_append, not_or]
  exact ⟨⟨⟨hbuild, hline⟩, started.slash_notMem_compact⟩, hend⟩

/-- The name of the page is one name, whatever the build is called. -/
theorem names_pageName : Path.names (c.pageName started) = [c.pageName started] :=
  Path.names_of_notMem (slash_notMem_pageName hc started) (pageName_ne started (by decide))
    (pageName_ne started (by decide))

theorem isAbsolute_pageName : Path.isAbsolute (c.pageName started) = false :=
  Path.isAbsolute_of_notMem (slash_notMem_pageName hc started)

theorem inside_pagePath : Path.Inside c.outputDir (c.pagePath started) := by
  have hup : c.pageName started ≠ ".." := pageName_ne started (by decide)
  refine (Path.inside_join_iff c.outputDir (isAbsolute_pageName hc started)).2 ?_
  rw [names_pageName hc started]
  simpa using Ne.symm hup

end Names

theorem inside_summaryPath (c : Config) : Path.Inside c.outputDir c.summaryPath :=
  (Path.inside_join_iff c.outputDir rfl).2 (by decide)

end Config

namespace Runner

variable {σ : Type} (r : Runner σ)

/-- What a run writes: the lines of its sink, and a page and a summary for its build and time. -/
def Writes (started : Clock) (path text : String) : Prop :=
  Sink.Writes r.config.csvPath path text
    ∨ ∃ report : RunReport, report.buildName = r.config.buildName ∧ report.started = started
      ∧ Report.Writes r.config.outputDir report path text

/-- However a run ends, it has written nothing else. -/
theorem effects_run (targets : List String) (started : Clock) (s : Session σ) :
    Effects r.transport (r.Writes started) s.files (r.run targets started s).2.files := by
  have hgathers : ∀ {files}, r.Gathers s.files files →
      Effects r.transport (r.Writes started) s.files files :=
    fun h => Effects.mono (fun _ _ => .inl) h
  rcases r.gathers_or_recorded targets started s with hg | ⟨p, sink, s', -, hg, hfiles⟩
  · exact hgathers hg
  · rw [hfiles]
    exact (hgathers hg).trans
      ((Report.effects_render r.transport sink _ _ started s'.files).mono fun _ _ => .inr)

variable {r} {started : Clock} {path text : String}

theorem Writes.path_mem (h : r.Writes started path text) :
    path ∈ [r.config.csvPath, r.config.pagePath started, r.config.summaryPath] := by
  rcases h with ⟨rfl, -⟩ | ⟨report, hname, hstarted, ⟨rfl, -⟩ | ⟨rfl, -⟩⟩
  · exact List.mem_cons_self
  · have hpage : report.pageName = r.config.pageName started := by
      simp only [Config.pageName, RunReport.pageName, hname, hstarted]
    simp [Config.pagePath, hpage]
  · simp [Config.summaryPath]

/-- In a configuration that passes `check`, page and summary lie inside the output directory, and so
does all that a run writes exactly if its sink stays there. If it does, and whatever comes of the
run, a file that the transport leaves alone has changed only below the output directory. -/
theorem run_stays_inside (r : Runner σ) (hc : r.config.check = .ok ()) (targets : List String)
    (started : Clock) (s : Session σ) :
    let s' := (r.run targets started s).2
    Effects r.transport (r.Writes started) s.files s'.files
      ∧ (∀ path text, r.Writes started path text → path ≠ r.config.csvPath →
        Path.Inside r.config.outputDir path)
      ∧ ((∀ path text, r.Writes started path text → Path.Inside r.config.outputDir path)
        ↔ r.config.SinkStays)
      ∧ (r.config.SinkStays → ∀ q, r.transport.Leaves (FileTree.SameAt q) →
        ¬ FileTree.SameAt q s.files s'.files →
          ∃ rest, rest ≠ [] ∧ q = FileTree.place s.files.home r.config.outputDir ++ rest) := by
  intro s'
  have heffects := r.effects_run targets started s
  have hreport : ∀ path text, r.Writes started path text → path ≠ r.config.csvPath →
      Path.Inside r.config.outputDir path := by
    intro path text h hne
    rcases List.mem_cons.1 h.path_mem with h | h
    · exact absurd h hne
    rcases List.mem_cons.1 h with rfl | h
    · exact Config.inside_pagePath hc started
    · exact List.mem_singleton.1 h ▸ r.config.inside_summaryPath
  have hall : (∀ path text, r.Writes started path text → Path.Inside r.config.outputDir path)
      ↔ r.config.SinkStays := by
    rw [← Config.inside_csvPath_iff]
    refine ⟨fun h => h _ _ (.inl ⟨rfl, .inl rfl⟩), fun hsink path text h => ?_⟩
    by_cases hpath : path = r.config.csvPath
    · exact hpath ▸ hsink
    · exact hreport path text h hpath
  refine ⟨heffects, hreport, hall, fun hstays q ht hne => ?_⟩
  -- no path that is written leads to a place that is not below the output directory
  by_contra hout
  refine hne (heffects.sameAt ht fun path text h hq => hout ?_)
  obtain ⟨rest, hrest, hplace⟩ := FileTree.place_of_inside (hall.2 hstays path text h) s.files.home
  exact ⟨rest, hrest, hq.symm.trans hplace⟩

/-- A sink in a directory of its own stays inside, also if the output directory leads upwards. -/
theorem run_stays_inside_nested :
    let r : Runner Nat := ⟨{ outputDir := "../out", csvFile := "rows/./today.csv" }, ⟨[]⟩,
      .oracle "oracle" fun _ => .ok "yes"⟩
    let s := Session.start .empty 0
    r.config.check = .ok () ∧ r.config.SinkStays
      ∧ (∀ path text, r.Writes default path text → Path.Inside "../out" path)
      ∧ ¬ FileTree.SameAt ["out", "rows", "today.csv"] s.files (r.run [] default s).2.files
      ∧ ∃ rest, rest ≠ [] ∧ ["out", "rows", "today.csv"] = ["out"] ++ rest := by
  intro r s
  have hc : r.config.check = .ok () := eq_ok_of_toOption (by decide +kernel)
  have hstays : r.config.SinkStays := by
    unfold Config.SinkStays
    rw [if_neg (by decide)]
    decide
  have hplace : FileTree.place s.files.home r.config.outputDir = ["out"] := by decide
  have hspares : r.transport.Leaves (FileTree.SameAt ["out", "rows", "today.csv"]) :=
    fun _ _ files => FileTree.SameAt.refl _ files
  have hbytes : ((r.run [] default s).2.files.bytesAt? ["out", "rows", "today.csv"]).isSome
      = true := by decide +kernel
  have hchanged : ¬ FileTree.SameAt ["out", "rows", "today.csv"] s.files
      (r.run [] default s).2.files := by
    intro h
    rw [h.bytes] at hbytes
    revert hbytes
    decide
  obtain ⟨-, -, hall, hbelow⟩ := run_stays_inside r hc [] default s
  exact ⟨hc, hstays, hall.2 hstays, hchanged, hplace ▸ hbelow hstays _ hspares hchanged⟩

/-- A sink that leads upwards: the run succeeds and empties a file beside the output directory. -/
theorem sink_leaves_output_directory :
    let r : Runner Nat := ⟨{ csvFile := "../victim.txt" }, ⟨[]⟩,
      .oracle "oracle" fun _ => .ok "yes"⟩
    let files : FileTree := ⟨["work"],
      [(["work"], .directory), (["work", "victim.txt"], .file "keep me\n".toUTF8 false)]⟩
    let s := Session.start files 0
    r.config.check = .ok () ∧ r.transport.SparesFiles
      ∧ ¬ Path.Inside r.config.outputDir r.config.csvPath
      ∧ (∃ o, (r.run [] default s).1 = .ok o)
      ∧ s.files.readText "victim.txt" = .ok "keep me\n"
      ∧ (r.run [] default s).2.files.readText "victim.txt" = .ok (Csv.line Sink.header) := by
  intro r files s
  have hup : ".." ∈ Path.names r.config.csvFile := by decide
  have hout : ¬ r.config.SinkStays := by
    unfold Config.SinkStays
    rw [if_neg (by decide)]
    exact fun h => h.2 hup
  have hrun : (r.run [] default s).1.toOption.map (·.results) = some [] := by decide +kernel
  obtain ⟨o, ho, -⟩ := exists_ok_of_toOption hrun
  exact ⟨eq_ok_of_toOption (by decide +kernel), Transport.oracle_spares _ _,
    (Config.inside_csvPath_iff _).not.2 hout, ⟨o, ho⟩, eq_ok_of_toOption (by decide +kernel),
    eq_ok_of_toOption (by decide +kernel)⟩

end Runner

end Conformance
