import Conformance.Proofs.FileTree
import Conformance.Report

/-!
# The files of a report

A report that was written is found afterwards: its page and its summary stand at different places,
for their paths end in different characters, so the second does not overwrite the first
(`render_ok`).
-/

namespace Conformance.Report

variable {t u : FileTree} {dir name text : String}

/-- Writing into a directory makes directories, and then it writes the file or fails. -/
theorem writeInto_cases (dir name text : String) (t : FileTree) :
    let made := (t.makeDirectories dir).2
    (∃ e, writeInto dir name text t = (.error e, made))
      ∨ ∃ u, writeInto dir name text t = (.ok (Path.join dir name), u)
        ∧ made.writeText (Path.join dir name) text = .ok u := by
  unfold writeInto
  rcases t.makeDirectories dir with ⟨e | _, v⟩
  · exact .inl ⟨.file e, rfl⟩
  · rcases hw : v.writeText (Path.join dir name) text with e | u <;> simp only [hw]
    · exact .inl ⟨.file e, rfl⟩
    · exact .inr ⟨u, rfl, rfl⟩

theorem writeInto_ok {path : String} (h : writeInto dir name text t = (.ok path, u)) :
    path = Path.join dir name ∧ ∃ v, t.Within v ∧ v.writeText path text = .ok u := by
  rcases writeInto_cases dir name text t with ⟨e, he⟩ | ⟨v, hv, hw⟩
  · simp [he] at h
  · rw [hv, Prod.mk.injEq, Except.ok.injEq] at h
    obtain ⟨rfl, rfl⟩ := h
    exact ⟨rfl, _, FileTree.within_makeDirectories t dir, hw⟩

/-- A file that was written into a directory reads as its text. -/
theorem readText_writeInto {path : String} (h : writeInto dir name text t = (.ok path, u)) :
    path = Path.join dir name ∧ u.readText path = .ok text := by
  obtain ⟨hpath, v, -, hv⟩ := writeInto_ok h
  obtain ⟨p, x, hf⟩ := FileTree.find_write hv
  exact ⟨hpath, FileTree.readText_of_find hf⟩

/-- Writing at a path leaves what another path finds, if the two end in different characters of
names. -/
theorem find_write_of_getLast? {path other : String} {content : ByteArray} {c d : Char}
    {p : Place} {e : Entry} (h : t.write path content = .ok u)
    (hc : path.toList.getLast? = some c) (hd : other.toList.getLast? = some d) (hne : c ≠ d)
    (hslash : c ≠ '/' ∧ d ≠ '/') (hpoint : c ≠ '.' ∧ d ≠ '.')
    (hf : t.find other = .ok (p, e)) : u.find other = .ok (p, e) := by
  obtain ⟨q, x, hq, hdir, -, rfl⟩ := FileTree.write_ok h
  obtain ⟨n, hn, hnc⟩ := FileTree.locate_getLast? hq hc hslash.1 hpoint.1
  obtain ⟨m, hm, hmd⟩ :=
    FileTree.locate_getLast? (FileTree.find_eq_ok_iff.1 hf).1 hd hslash.2 hpoint.2
  refine FileTree.find_put_of_ne hdir ?_ hf
  rintro rfl
  rw [hn, Option.some.injEq] at hm
  subst hm
  rw [hnc, Option.some.injEq] at hmd
  exact hne hmd

theorem getLast?_pageName (r : RunReport) : r.pageName.toList.getLast? = some 'l' := by
  unfold RunReport.pageName
  rw [String.toList_append, List.getLast?_append]
  rfl

theorem getLast?_summaryName : RunReport.summaryName.toList.getLast? = some 'n' := rfl

/-- A report is rendered from the rows of the sink, its page before its summary. -/
theorem render_stages {s : Sink} {buildName : String} {started : Clock} {paths : Paths} {log : Log}
    (h : render s dir buildName started t = (.ok paths, u, log)) :
    ∃ r v, collect s buildName started t = .ok r ∧ writePage r dir t = (.ok paths.page, v)
      ∧ writeSummary r dir v = (.ok paths.summary, u) := by
  unfold render at h
  rcases hr : collect s buildName started t with e | r <;> simp only [hr] at h
  · simp at h
  rcases hp : writePage r dir t with ⟨e | page, v⟩ <;> simp only [hp] at h
  · simp at h
  rcases hs : writeSummary r dir v with ⟨e | summary, w⟩ <;> simp only [hs] at h
  · simp at h
  simp only [Prod.mk.injEq, Except.ok.injEq] at h
  obtain ⟨rfl, rfl, -⟩ := h
  exact ⟨r, v, rfl, hp, hs⟩

/-- A report that was written shows what was collected, on its page and in its summary. -/
theorem render_ok {s : Sink} {buildName : String} {started : Clock} {paths : Paths} {log : Log}
    (h : render s dir buildName started t = (.ok paths, u, log)) :
    ∃ r, collect s buildName started t = .ok r ∧ u.readText paths.page = .ok r.page
      ∧ u.readText paths.summary = .ok r.summaryText := by
  obtain ⟨r, t₁, hr, hp, hs⟩ := render_stages h
  obtain ⟨hpage, v, -, hv⟩ := writeInto_ok hp
  obtain ⟨hsummary, w, hw, hwt⟩ := writeInto_ok hs
  have htext := (readText_writeInto hs).2
  rw [hpage] at hv ⊢
  rw [hsummary] at hwt htext ⊢
  obtain ⟨p, x, hf⟩ := FileTree.find_write hv
  have hkept := find_write_of_getLast? hwt (Path.getLast?_join dir getLast?_summaryName)
    (Path.getLast?_join dir (getLast?_pageName r)) (by decide) (by decide) (by decide) (hw.find hf)
  exact ⟨r, hr, FileTree.readText_of_find hkept, htext⟩

end Conformance.Report
