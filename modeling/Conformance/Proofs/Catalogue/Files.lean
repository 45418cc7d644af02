import Conformance.Proofs.Catalogue.Loading
import Conformance.Proofs.FileTree.Place
import Conformance.Proofs.Path.Name

/-!
# Which files a loading counts

Where every file with the name of a suite can be read, a loading counts exactly these files, unless
a directory from the loaded one down has such a name itself or cannot be entered: that ends the
loading (`loadDirectory_counts_files`, `directory_ends_loading`).
-/

namespace Conformance

namespace FileTree

variable {t : FileTree} {p : Place} {dir : String} {names : List String}

/-- What stands in the tree has names that can stand in a directory. -/
def Named (t : FileTree) : Prop := ∀ e ∈ t.entries, ∀ name ∈ e.1, Path.IsName name

instance (t : FileTree) : Decidable t.Named :=
  inferInstanceAs (Decidable (∀ e ∈ t.entries, ∀ name ∈ e.1, _))

/-- The names lead from the place to a file with the name of a suite. -/
@[mk_iff]
structure SuiteFile (t : FileTree) (p : Place) (names : List String) : Prop where
  below : t.Below p names
  file : t.lookup (p ++ names) ≠ some .directory
  named : names.getLast?.any Suite.isPath = true

/-- No directory from the place down has the name of a suite, and all can be entered. -/
def Clear (t : FileTree) (p : Place) (dir : String) : Prop :=
  ∀ names, t.Below p names → t.lookup (p ++ names) = some .directory →
    Suite.isPath (pathBelow dir names) = false ∧ (pathBelow dir names).utf8ByteSize < 4096

theorem Below.take (h : t.Below p names) {i : Nat} (hi : i < names.length) :
    t.Below p (names.take i) := by
  refine ⟨by rw [h.through i hi]; exact Option.some_ne_none _, fun j hj => ?_⟩
  rw [List.length_take] at hj
  rw [List.take_take, Nat.min_eq_left (by omega)]
  exact h.through j (by omega)

theorem Named.isName (ht : t.Named) (h : t.Below p names) {name : String} (hn : name ∈ names) :
    Path.IsName name := by
  have hne : p ++ names ≠ [] := by
    intro hnil
    rw [(List.append_eq_nil_iff.1 hnil).2] at hn
    cases hn
  obtain ⟨e, he, hplace⟩ := List.mem_map.1 (mem_places_of_lookup hne h.there)
  exact ht e he name (hplace ▸ List.mem_append_right p hn)

theorem pathBelow_concat (dir : String) (names : List String) (name : String) :
    pathBelow dir (names ++ [name]) = Path.join (pathBelow dir names) name := by
  unfold pathBelow
  rw [List.foldl_append]
  rfl

theorem place_pathBelow (home : Place) : ∀ {names : List String} {dir : String},
    (∀ name ∈ names, Path.IsName name) →
    place home (pathBelow dir names) = place home dir ++ names
  | [], dir, _ => (List.append_nil _).symm
  | name :: names, dir, h => by
    obtain ⟨hname, hrest⟩ := List.forall_mem_cons.1 h
    have hup : ".." ∉ Path.names name := by simpa [hname.names] using Ne.symm hname.upwards
    calc place home (pathBelow (Path.join dir name) names)
        = place home (Path.join dir name) ++ names := place_pathBelow home hrest
      _ = place home dir ++ name :: names := by
        rw [place_join home dir hname.isAbsolute hup, hname.names, List.append_assoc,
          List.singleton_append]

theorem isPath_pathBelow (ht : t.Named) (h : t.Below p names) (hne : names ≠ []) :
    Suite.isPath (pathBelow dir names) = names.getLast?.any Suite.isPath := by
  obtain ⟨front, name, rfl⟩ := (List.eq_nil_or_concat' names).resolve_left hne
  have hname := ht.isName h (List.mem_append_right front (List.mem_singleton_self name))
  rw [pathBelow_concat, Suite.isPath_join _ hname, List.getLast?_concat]
  rfl

theorem load_pathBelow_of_directory (ht : t.Named) (hl : t.locate dir = .ok p)
    (h : t.Below p names) (hd : t.lookup (p ++ names) = some .directory) :
    ∃ e, Suite.load t (pathBelow dir names) = .error e := by
  have hread : ∃ e, t.readBytes (pathBelow dir names) = .error e := by
    unfold readBytes
    rcases hf : t.find (pathBelow dir names) with e | ⟨q, entry⟩
    · exact ⟨e, rfl⟩
    · obtain ⟨hq, hentry, -⟩ := find_eq_ok_iff.1 hf
      rw [locate_place hq, place_pathBelow _ fun name => ht.isName h, ← locate_place hl, hd]
        at hentry
      cases hentry
      exact ⟨.isDirectory, rfl⟩
  obtain ⟨e, he⟩ := hread
  refine ⟨.file e, ?_⟩
  unfold Suite.load readText
  rw [he]
  rfl

theorem Clear.entered (hc : t.Clear p dir) (h : t.Below p names) : Entered dir names :=
  fun i hi => (hc _ (h.take hi) (h.through i hi)).2

theorem Clear.stepsAt_eq (hc : t.Clear p dir) (h : t.Below p names) :
    t.stepsAt p dir names = [.ok (pathBelow dir names)] := by
  unfold stepsAt
  rw [if_neg]
  rintro ⟨hd, hlong⟩
  exact absurd (hc _ h hd).2 (Nat.not_lt.2 hlong)

theorem Clear.suiteFile_iff (ht : t.Named) (hl : t.lookup p = some .directory)
    (hc : t.Clear p dir) :
    t.SuiteFile p names ↔ t.Below p names ∧ Suite.isPath (pathBelow dir names) = true := by
  constructor
  · rintro ⟨hbelow, -, hnamed⟩
    have hne : names ≠ [] := by
      rintro rfl
      cases hnamed
    exact ⟨hbelow, (isPath_pathBelow ht hbelow hne).trans hnamed⟩
  · rintro ⟨hbelow, hpath⟩
    have hfile : t.lookup (p ++ names) ≠ some .directory := by
      intro hd
      rw [(hc _ hbelow hd).1] at hpath
      cases hpath
    have hne : names ≠ [] := by
      rintro rfl
      exact hfile (by rwa [List.append_nil])
    exact ⟨hbelow, hfile, (isPath_pathBelow ht hbelow hne).symm.trans hpath⟩

/-- What is in the way of a walk lies behind directories that it enters. -/
theorem exists_entered : ∀ {names : List String}, t.Below p names →
    t.lookup (p ++ names) = some .directory →
    Suite.isPath (pathBelow dir names) = true ∨ 4096 ≤ (pathBelow dir names).utf8ByteSize →
    ∃ names, t.Below p names ∧ Entered dir names ∧ t.lookup (p ++ names) = some .directory
      ∧ (Suite.isPath (pathBelow dir names) = true ∨ 4096 ≤ (pathBelow dir names).utf8ByteSize)
  | names, h, hd, hway => by
    by_cases hent : Entered dir names
    · exact ⟨names, h, hent, hd, hway⟩
    · -- a directory on the way has too long a path already
      unfold Entered at hent
      push Not at hent
      obtain ⟨i, hi, hlong⟩ := hent
      have : (names.take i).length < names.length := by
        rw [List.length_take]
        omega
      exact exists_entered (h.take hi) (h.through i hi) (.inr hlong)
termination_by names => names.length

end FileTree

open FileTree (pathBelow)

variable {t : FileTree} {p : Place} {dir : String}

namespace Suite

theorem exists_suites : ∀ {steps : List (Except FileError String)},
    (∀ step ∈ steps, ∃ s, loadStep t step = .ok s) →
    ∃ suites : List Suite, steps.map (loadStep t) = suites.map .ok
  | [], _ => ⟨[], rfl⟩
  | step :: steps, h => by
    obtain ⟨⟨s, hs⟩, hrest⟩ := List.forall_mem_cons.1 h
    obtain ⟨suites, hsuites⟩ := exists_suites hrest
    exact ⟨s :: suites, by rw [List.map_cons, List.map_cons, hs, hsuites]⟩

theorem loadAll_of_mem_error {step : Except FileError String} {e : Failure}
    (he : loadStep t step = .error e) : ∀ {steps : List (Except FileError String)}, step ∈ steps →
      ∃ suites e', loadAll t steps = (suites, some e')
  | first :: steps, h => by
    rcases hfirst : loadStep t first with e' | s
    · exact ⟨[], e', by rw [loadAll, hfirst]⟩
    · have hrest : step ∈ steps := by
        refine (List.mem_cons.1 h).resolve_left ?_
        rintro rfl
        rw [he] at hfirst
        cases hfirst
      obtain ⟨suites, e', hread⟩ := loadAll_of_mem_error he hrest
      exact ⟨s :: suites, e', by rw [loadAll_cons_of_ok hfirst, hread]⟩

end Suite

/-- The files with the name of a suite stand in an order in which they are the steps of a loading
where the way is clear. -/
theorem exists_files (ht : t.Named) (hdir : t.find dir = .ok (p, .directory)) :
    ∃ files : List (List String), files.Pairwise (· < ·)
      ∧ (∀ names, names ∈ files ↔ t.SuiteFile p names)
      ∧ (t.Clear p dir →
        suiteSteps t dir = files.map fun names => .ok (pathBelow dir names)) := by
  obtain ⟨hl, hthere, -⟩ := FileTree.find_eq_ok_iff.1 hdir
  obtain ⟨below, hsorted, hmem, hwalk⟩ :=
    FileTree.walk_eq hl (by rw [hthere]; exact Option.some_ne_none _)
  have hfiles : ∀ names, names ∈ below.filter (fun names =>
        t.lookup (p ++ names) ≠ some .directory ∧ names.getLast?.any Suite.isPath = true)
      ↔ t.SuiteFile p names := by
    intro names
    rw [List.mem_filter, hmem, decide_eq_true_eq, FileTree.suiteFile_iff]
  refine ⟨_, hsorted.filter _, hfiles, fun hc => ?_⟩
  have hentered : below.filter (FileTree.Entered dir) = below :=
    List.filter_eq_self.2 fun names h => decide_eq_true (hc.entered ((hmem names).1 h))
  have hsteps : below.flatMap (t.stepsAt p dir)
      = below.map fun names => .ok (pathBelow dir names) := by
    rw [List.map_eq_flatMap]
    exact List.flatMap_congr fun names h => hc.stepsAt_eq ((hmem names).1 h)
  unfold suiteSteps
  rw [hwalk, hentered, hsteps, List.filter_map]
  congr 1
  refine List.filter_congr fun names h => ?_
  rw [Bool.eq_iff_iff, decide_eq_true_eq]
  have hiff : t.SuiteFile p names ↔ _ := hc.suiteFile_iff ht hthere
  exact ⟨fun hpath => have hs := hiff.2 ⟨(hmem names).1 h, hpath⟩; ⟨hs.file, hs.named⟩,
    fun ⟨hf, hn⟩ => (hiff.1 ⟨(hmem names).1 h, hf, hn⟩).2⟩

theorem exists_error_of_not_clear (ht : t.Named) (hdir : t.find dir = .ok (p, .directory))
    (hc : ¬ t.Clear p dir) : ∃ step ∈ suiteSteps t dir, ∃ e, Suite.loadStep t step = .error e := by
  obtain ⟨hl, hthere, -⟩ := FileTree.find_eq_ok_iff.1 hdir
  obtain ⟨below, -, hmem, hwalk⟩ :=
    FileTree.walk_eq hl (by rw [hthere]; exact Option.some_ne_none _)
  unfold FileTree.Clear at hc
  push Not at hc
  obtain ⟨names, hbelow, hd, hway⟩ := hc
  obtain ⟨names, hbelow, hent, hd, hway⟩ := FileTree.exists_entered hbelow hd
    (Decidable.or_iff_not_imp_left.2 fun h => hway (Bool.eq_false_iff.2 h))
  have hstep : ∀ step ∈ t.stepsAt p dir names, Suite.isStep step = true →
      step ∈ suiteSteps t dir := by
    intro step hstep his
    unfold suiteSteps
    rw [hwalk, List.mem_filter, List.mem_flatMap]
    exact ⟨⟨names, List.mem_filter.2 ⟨(hmem names).2 hbelow, decide_eq_true hent⟩, hstep⟩, his⟩
  rcases hway with hpath | hlong
  · obtain ⟨e, he⟩ := FileTree.load_pathBelow_of_directory ht hl hbelow hd
    exact ⟨.ok (pathBelow dir names), hstep _ List.mem_cons_self hpath, e, he⟩
  · refine ⟨.error (.onWalk (pathBelow dir names) .nameTooLong), hstep _ ?_ rfl, _, rfl⟩
    unfold FileTree.stepsAt
    rw [if_pos ⟨hd, hlong⟩]
    exact List.mem_cons_of_mem _ (List.mem_singleton_self _)

namespace Catalogue

variable {k : Catalogue}

/-- If every file with the name of a suite can be read and no keys clash, a loading counts these
files where the way is clear, and fails where it is not. -/
theorem loadDirectory_counts_files (ht : t.Named) (hdir : t.find dir = .ok (p, .directory))
    (hread : ∀ names, t.SuiteFile p names → ∃ s, Suite.load t (pathBelow dir names) = .ok s)
    (hclash : (k.loadDirectory t dir).catalogue.check = .ok ()) :
    ∃ files : List (List String), files.Pairwise (· < ·)
      ∧ (∀ names, names ∈ files ↔ t.SuiteFile p names)
      ∧ (t.Clear p dir → (k.loadDirectory t dir).result = .ok files.length
        ∧ ∃ suites : List Suite,
          files.map (fun names => Suite.load t (pathBelow dir names)) = suites.map .ok
          ∧ (k.loadDirectory t dir).catalogue = k.insertAll suites)
      ∧ (¬ t.Clear p dir → ∃ e, (k.loadDirectory t dir).result = .error e) := by
  have hd := FileTree.isDirectory_iff.2 ⟨p, hdir⟩
  obtain ⟨files, hsorted, hfiles, hsteps⟩ := exists_files ht hdir
  refine ⟨files, hsorted, hfiles, fun hc => ?_, fun hc => ?_⟩
  · have hmap : (suiteSteps t dir).map (Suite.loadStep t)
        = files.map fun names => Suite.load t (pathBelow dir names) := by
      rw [hsteps hc, List.map_map]
      rfl
    obtain ⟨suites, hsuites⟩ : ∃ suites : List Suite,
        (suiteSteps t dir).map (Suite.loadStep t) = suites.map .ok := by
      refine Suite.exists_suites fun step h => ?_
      rw [hsteps hc] at h
      obtain ⟨names, hnames, rfl⟩ := List.mem_map.1 h
      exact hread names ((hfiles names).1 hnames)
    have hall := Suite.loadAll_of_ok hsuites
    have hlength : suites.length = files.length := by
      simpa using (congrArg List.length (hmap.symm.trans hsuites)).symm
    refine ⟨?_, suites, hmap.symm.trans hsuites, ?_⟩
    · rw [result_loadDirectory_of_ok hd hall, hclash, hlength]
      rfl
    · rw [catalogue_loadDirectory hd, hall]
  · obtain ⟨step, hstep, e, he⟩ := exists_error_of_not_clear ht hdir hc
    obtain ⟨suites, e', hall⟩ := Suite.loadAll_of_mem_error he hstep
    exact ⟨e', result_loadDirectory_of_error hd hall⟩

section Tree

variable {names : List String}

theorem below_suitesTree : suitesTree.Below ["work", "d"] names
    ↔ names ∈ [[], ["a.yaml"], ["b.yml"], ["notes"], ["sub"], ["sub", "c.yaml"]] := by
  have hall : suitesTree.namesBelow (suitesTree.entries.length + 1) ["work", "d"]
      = [[], ["a.yaml"], ["b.yml"], ["notes"], ["sub"], ["sub", "c.yaml"]] := by decide +kernel
  rw [← hall, FileTree.mem_namesBelow_length (by decide)]

theorem suiteFile_suitesTree : suitesTree.SuiteFile ["work", "d"] names
    ↔ names ∈ [["a.yaml"], ["b.yml"], ["sub", "c.yaml"]] := by
  have hsome : [[], ["a.yaml"], ["b.yml"], ["notes"], ["sub"], ["sub", "c.yaml"]].filter
        (fun names => suitesTree.lookup (["work", "d"] ++ names) ≠ some .directory
          ∧ names.getLast?.any Suite.isPath = true)
      = [["a.yaml"], ["b.yml"], ["sub", "c.yaml"]] := by decide +kernel
  rw [FileTree.suiteFile_iff, below_suitesTree, ← hsome, List.mem_filter, decide_eq_true_eq]

theorem clear_suitesTree : suitesTree.Clear ["work", "d"] "d" := by
  have hall : ∀ names ∈ [[], ["a.yaml"], ["b.yml"], ["notes"], ["sub"], ["sub", "c.yaml"]],
      suitesTree.lookup (["work", "d"] ++ names) = some .directory →
      Suite.isPath (pathBelow "d" names) = false ∧ (pathBelow "d" names).utf8ByteSize < 4096 := by
    decide +kernel
  exact fun names h => hall names (below_suitesTree.1 h)

theorem load_suiteFile_suitesTree (h : suitesTree.SuiteFile ["work", "d"] names) :
    ∃ s, Suite.load suitesTree (pathBelow "d" names) = .ok s := by
  obtain ⟨ha, hb, hc, -⟩ := load_suitesTree
  have hpaths : [["a.yaml"], ["b.yml"], ["sub", "c.yaml"]].map (pathBelow "d")
      = ["d/a.yaml", "d/b.yml", "d/sub/c.yaml"] := by decide
  have hpath := hpaths ▸ List.mem_map_of_mem (f := pathBelow "d") (suiteFile_suitesTree.1 h)
  simp only [List.mem_cons, List.not_mem_nil, or_false] at hpath
  rcases hpath with h | h | h <;> rw [h]
  exacts [⟨_, ha⟩, ⟨_, hb⟩, ⟨_, hc⟩]

end Tree

/-- Of the files in `d`, three at two depths have the name of a suite, and no directory has. -/
theorem loadDirectory_counts_files_tree :
    let k : Catalogue := ⟨[plainSuite .wifi "W"]⟩
    suitesTree.Named ∧ suitesTree.find "d" = .ok (["work", "d"], .directory)
      ∧ (∀ names, suitesTree.SuiteFile ["work", "d"] names
        ↔ names ∈ [["a.yaml"], ["b.yml"], ["sub", "c.yaml"]])
      ∧ suitesTree.Clear ["work", "d"] "d" ∧ (k.loadDirectory suitesTree "d").result = .ok 3 := by
  intro k
  have hnamed : suitesTree.Named := by decide +kernel
  have hdir := find_suitesTree.1
  have hclash : (k.loadDirectory suitesTree "d").catalogue.check = .ok () := by
    rw [catalogue_loadDirectory (FileTree.isDirectory_iff.2 ⟨_, hdir⟩),
      Suite.loadAll_of_ok read_suitesTree]
    exact eq_ok_of_toOption (by decide +kernel)
  obtain ⟨files, hsorted, hmem, hcounts, -⟩ :=
    loadDirectory_counts_files hnamed hdir (fun _ => load_suiteFile_suitesTree) hclash
  have hperm : files.Perm [["a.yaml"], ["b.yml"], ["sub", "c.yaml"]] :=
    (List.perm_ext_iff_of_nodup (hsorted.imp fun h => h.ne) (by decide)).2
      fun names => (hmem names).trans suiteFile_suitesTree
  exact ⟨hnamed, hdir, fun names => suiteFile_suitesTree, clear_suitesTree,
    (hcounts clear_suitesTree).1.trans (congrArg _ hperm.length_eq)⟩

/-- A directory with the name of a suite, and no suite at all: the loading fails. -/
theorem directory_ends_loading :
    let t : FileTree := ⟨["work"], [(["work"], .directory), (["work", "d"], .directory),
      (["work", "d", "old.yaml"], .directory)]⟩
    let l := Catalogue.loadDirectory ⟨[]⟩ t "d"
    t.Named ∧ t.find "d" = .ok (["work", "d"], .directory)
      ∧ (∀ names, ¬ t.SuiteFile ["work", "d"] names)
      ∧ l.catalogue.check = .ok () ∧ l.result = .error (.file .isDirectory) := by
  intro t l
  have hfiles : ∀ names, ¬ t.SuiteFile ["work", "d"] names := by
    rintro names ⟨hbelow, hfile, -⟩
    have hall : ∀ names ∈ t.namesBelow (t.entries.length + 1) ["work", "d"],
        t.lookup (["work", "d"] ++ names) = some .directory := by decide
    exact hfile (hall names ((FileTree.mem_namesBelow_length (by decide)).2 hbelow))
  exact ⟨by decide, by decide, hfiles, eq_ok_of_toOption (by decide), rfl⟩

end Catalogue

end Conformance
