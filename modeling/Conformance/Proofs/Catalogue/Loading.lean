import Conformance.Catalogue.Loading
import Conformance.Proofs.Catalogue
import Conformance.Proofs.Catalogue.Insertion
import Conformance.Proofs.FileTree
import Conformance.Proofs.FileTree.Walk

/-!
# What the loading of a directory leaves

Loading reads suite after suite and stops at the first step of the walk that comes to none
(`loadAll_of_ok`, `loadAll_of_error`). What was read is inserted either way, so the stored suites
can be told from the suites that were read (`suites_loadDirectory`).
-/

namespace Conformance

variable {k : Catalogue} {t : FileTree} {dir : String}

namespace Suite

variable {steps before after : List (Except FileError String)} {step : Except FileError String}
  {suites : List Suite} {e : Failure}

theorem loadStep_ok (t : FileTree) (path : String) : loadStep t (.ok path) = load t path := by
  unfold loadStep
  rw [mapError_ok, ok_bind]

theorem loadAll_cons_of_ok {s : Suite} (h : loadStep t step = .ok s) :
    loadAll t (step :: after) = (s :: (loadAll t after).1, (loadAll t after).2) := by
  rw [loadAll, h]

theorem loadAll_of_ok : ∀ {steps : List (Except FileError String)} {suites : List Suite},
    steps.map (loadStep t) = suites.map .ok → loadAll t steps = (suites, none)
  | [], [], _ => rfl
  | step :: steps, s :: suites, h => by
    rw [List.map_cons, List.map_cons, List.cons.injEq] at h
    rw [loadAll_cons_of_ok h.1, loadAll_of_ok h.2]

end Suite

namespace Catalogue

theorem loadDirectory_of_missing (k : Catalogue) (h : t.isDirectory dir = false) :
    k.loadDirectory t dir = ⟨.error (.config (.noSuitesDirectory dir)), k, []⟩ := by
  unfold loadDirectory
  rw [h]
  rfl

theorem catalogue_loadDirectory (h : t.isDirectory dir = true) :
    (k.loadDirectory t dir).catalogue = k.insertAll (Suite.loadAll t (suiteSteps t dir)).1 := by
  unfold loadDirectory
  rw [h]
  rfl

variable {suites : List Suite}

theorem result_loadDirectory_of_ok (h : t.isDirectory dir = true)
    (hl : Suite.loadAll t (suiteSteps t dir) = (suites, none)) :
    (k.loadDirectory t dir).result
      = (k.loadDirectory t dir).catalogue.check.map fun _ => suites.length := by
  unfold loadDirectory
  rw [h, hl]
  rfl

theorem result_loadDirectory_of_error {e : Failure} (h : t.isDirectory dir = true)
    (hl : Suite.loadAll t (suiteSteps t dir) = (suites, some e)) :
    (k.loadDirectory t dir).result = .error e := by
  unfold loadDirectory
  rw [h, hl]
  rfl

end Catalogue

theorem FileTree.isDirectory_iff :
    t.isDirectory dir = true ↔ ∃ p, t.find dir = .ok (p, .directory) := by
  unfold isDirectory
  rcases t.find dir with e | ⟨p, _ | _⟩ <;> simp

namespace Catalogue

/-- A suite with a single case, of which nothing matters but the key. -/
def plainSuite (g : Group) (key : String) : Suite :=
  ⟨g, none, "", [⟨key, key, "", [], "", "", none⟩]⟩

/-- In `d`, two suites of a group lie at different depths; in `e`, a file without a suite follows
one with a suite. -/
def suitesTree : FileTree where
  home := ["work"]
  entries :=
    let file := fun text : String => Entry.file text.toUTF8 false
    let suite := fun group key => file ("group: " ++ group ++ "\ncases:\n- name: " ++ key
      ++ "\n  id: " ++ key ++ "\n  request: ''\n  expected: ''\n")
    [(["work"], .directory), (["work", "d"], .directory), (["work", "d", "sub"], .directory),
      (["work", "d", "sub", "c.yaml"], suite "Wifi" "C"),
      (["work", "d", "notes"], file "group: Wifi"),
      (["work", "d", "b.yml"], suite "Bluetooth" "B"), (["work", "d", "a.yaml"], suite "Wifi" "A"),
      (["work", "e"], .directory), (["work", "e", "n.yaml"], file "group: Wifi"),
      (["work", "e", "m.yaml"], suite "Bluetooth" "M")]

section Tree

theorem find_suitesTree : suitesTree.find "d" = .ok (["work", "d"], .directory)
    ∧ suitesTree.find "e" = .ok (["work", "e"], .directory) := by decide +kernel

theorem steps_suitesTree :
    suiteSteps suitesTree "d" = [.ok "d/a.yaml", .ok "d/b.yml", .ok "d/sub/c.yaml"]
      ∧ suiteSteps suitesTree "e" = [.ok "e/m.yaml", .ok "e/n.yaml"] := by decide +kernel

theorem load_suitesTree : Suite.load suitesTree "d/a.yaml" = .ok (plainSuite .wifi "A")
    ∧ Suite.load suitesTree "d/b.yml" = .ok (plainSuite .bluetooth "B")
    ∧ Suite.load suitesTree "d/sub/c.yaml" = .ok (plainSuite .wifi "C")
    ∧ Suite.load suitesTree "e/m.yaml" = .ok (plainSuite .bluetooth "M")
    ∧ ∃ e, Suite.load suitesTree "e/n.yaml" = .error e :=
  ⟨eq_ok_of_toOption (by decide +kernel), eq_ok_of_toOption (by decide +kernel),
    eq_ok_of_toOption (by decide +kernel), eq_ok_of_toOption (by decide +kernel),
    exists_error_of_toOption (by decide +kernel)⟩

theorem read_suitesTree : (suiteSteps suitesTree "d").map (Suite.loadStep suitesTree)
    = [plainSuite .wifi "A", plainSuite .bluetooth "B", plainSuite .wifi "C"].map .ok := by
  obtain ⟨ha, hb, hc, -⟩ := load_suitesTree
  simp only [steps_suitesTree.1, List.map_cons, List.map_nil, Suite.loadStep_ok, ha, hb, hc]

end Tree

end Catalogue

end Conformance
