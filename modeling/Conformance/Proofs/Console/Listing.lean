import Conformance.Proofs.Catalogue.Lookup
import Conformance.Proofs.Console

/-!
# What the list of cases shows

The table of the catalogue has a block of rows for each group, and the name of the group stands in
the first row of its block only. So the rows of a group can be found in the table again
(`rowsUnder_rows`). They say that the group is not implemented, exactly if it is not
(`mem_rows_not_implemented`), or show what a run of the group executes, with numbers from one
(`tail_rowsUnder`), and all rows together show what a full run executes (`catalogueTable_agrees`).
-/

namespace Conformance.Console

section Blocks

/-- The rows of a group in a table: the row that begins with its name, and those below it up to the
next that begins with a name. -/
def rowsUnder (name : String) (rows : List (List String)) : List (List String) :=
  match rows.dropWhile fun row => row.head? ≠ some name with
  | [] => []
  | first :: rest => first :: rest.takeWhile fun row => row.head? = some ""

/-- The first of the rows begins with the name, and the others begin with an empty cell. -/
def Block (name : String) (block : List (List String)) : Prop :=
  ∃ cells rest, block = (name :: cells) :: rest ∧ ∀ row ∈ rest, row.head? = some ""

variable {name other : String} {block rows : List (List String)}

theorem rowsUnder_append_of_ne (hname : name ≠ "") (hne : other ≠ name) (h : Block other block) :
    rowsUnder name (block ++ rows) = rowsUnder name rows := by
  obtain ⟨cells, rest, rfl, hrest⟩ := h
  unfold rowsUnder
  rw [List.dropWhile_append_of_pos]
  intro row hrow
  rcases List.mem_cons.1 hrow with rfl | hrow
  · simpa using hne
  · simpa [hrest row hrow] using hname.symm

theorem rowsUnder_append (h : Block name block)
    (hrows : ∀ row ∈ rows.head?, row.head? ≠ some "") : rowsUnder name (block ++ rows) = block := by
  obtain ⟨cells, rest, rfl, hrest⟩ := h
  have hfirst : ((name :: cells) :: (rest ++ rows)).dropWhile
      (fun row => decide (row.head? ≠ some name)) = (name :: cells) :: (rest ++ rows) := by
    simp
  have hend : rows.takeWhile (fun row => decide (row.head? = some "")) = [] := by
    rcases rows with _ | ⟨row, rows⟩
    · rfl
    · simp [hrows row rfl]
  unfold rowsUnder
  rw [List.cons_append, hfirst]
  simp only []
  rw [List.takeWhile_append_of_pos (by simpa using hrest), hend, List.append_nil]

variable {blocks : Group → List (List String)} (hblocks : ∀ g, Block g.name (blocks g))
include hblocks

theorem head?_flatMap (groups : List Group) :
    ∀ row ∈ (groups.flatMap blocks).head?, row.head? ≠ some "" := by
  rcases groups with _ | ⟨g, groups⟩
  · simp
  · obtain ⟨cells, rest, hg, -⟩ := hblocks g
    simp [hg, Group.name_ne_empty]

/-- Where each group has a block, the rows of a group are its block. -/
theorem rowsUnder_flatMap : ∀ {groups : List Group} {g : Group}, groups.Nodup → g ∈ groups →
    rowsUnder g.name (groups.flatMap blocks) = blocks g
  | a :: groups, g, hnodup, hg => by
    rw [List.nodup_cons] at hnodup
    rw [List.flatMap_cons]
    by_cases ha : a = g
    · subst ha
      exact rowsUnder_append (hblocks a) (head?_flatMap hblocks groups)
    · have hmem : g ∈ groups := (List.mem_cons.1 hg).resolve_left (Ne.symm ha)
      rw [rowsUnder_append_of_ne (Group.name_ne_empty g) (fun e => ha (Group.name_injective e))
        (hblocks a), rowsUnder_flatMap hnodup.2 hmem]

end Blocks

section Listing

variable (k : Catalogue) (g : Group)

/-- The name and the id of the case that a row shows, unless it shows none. -/
def shownCase : List String → Option (String × String)
  | [_, number, name, id] => if number = "-" then none else some (name, id)
  | _ => none

theorem toString_ne_hyphen (n : Nat) : toString n ≠ "-" := by
  intro h
  have hdigits := congrArg String.toList h
  rw [Nat.toString_eq_ofList_toDigits, String.toList_ofList] at hdigits
  have hhyphen : '-' ∈ Nat.toDigits 10 n := by simp [hdigits]
  exact absurd (Nat.isDigit_of_mem_toDigits (by decide) (by decide) hhyphen) (by decide)

/-- What the row of a case shows behind the name of the group. -/
def caseCells (e : TestCase × Nat) : List String := [toString e.2, e.1.name, e.1.id]

theorem cells_listedGroup_of_nil (h : k.casesOf g = []) :
    (listedGroup k g).map Listed.cells = [[g.name, "-", "not implemented", ""]] := by
  simp [listedGroup, h, Listed.cells]

theorem cells_listedGroup_of_ne_nil (h : k.casesOf g ≠ []) :
    (listedGroup k g).map Listed.cells = ((k.casesOf g).zipIdx 1).map fun e =>
      (if e.2 = 1 then g.name else "") :: caseCells e := by
  unfold listedGroup
  rcases hc : k.casesOf g with _ | ⟨c, rest⟩
  · exact absurd hc h
  · rw [List.zipIdx_succ]
    simp only [List.map_map]
    rfl

theorem block_listedGroup : Block g.name ((listedGroup k g).map Listed.cells) := by
  rcases hc : k.casesOf g with _ | ⟨c, rest⟩
  · rw [cells_listedGroup_of_nil k g hc]
    exact ⟨_, _, rfl, by simp⟩
  · rw [cells_listedGroup_of_ne_nil k g (by simp [hc]), hc, List.zipIdx_cons, List.map_cons]
    refine ⟨_, _, rfl, fun row hrow => ?_⟩
    obtain ⟨⟨d, i⟩, hi, rfl⟩ := List.mem_map.1 hrow
    have hpos := (List.mem_zipIdx hi).1
    rw [if_neg (by simp only; omega)]
    rfl

theorem rows_catalogueTable : (catalogueTable k).rows
    = Group.all.flatMap fun g => (listedGroup k g).map Listed.cells := by
  simp only [catalogueTable, listed, List.map_flatMap]

/-- The rows of a group are those that list it. -/
theorem rowsUnder_rows : rowsUnder g.name (catalogueTable k).rows
    = (listedGroup k g).map Listed.cells := by
  rw [rows_catalogueTable]
  exact rowsUnder_flatMap (block_listedGroup k) Group.nodup_all (Group.mem_all g)

theorem shownCase_listedGroup : ((listedGroup k g).map Listed.cells).filterMap shownCase
    = (k.casesOf g).map fun c => (c.name, c.id) := by
  by_cases hc : k.casesOf g = []
  · rw [cells_listedGroup_of_nil k g hc, hc]
    rfl
  have hshown : shownCase ∘ (fun e => (if e.2 = 1 then g.name else "") :: caseCells e)
      = some ∘ (fun c => (c.name, c.id)) ∘ Prod.fst := by
    funext e
    simp only [Function.comp, shownCase, caseCells, if_neg (toString_ne_hyphen e.2)]
  rw [cells_listedGroup_of_ne_nil k g hc, List.filterMap_map, hshown, List.filterMap_eq_map,
    ← List.map_map, List.zipIdx_map_fst]

theorem tail_listedGroup (h : k.casesOf g ≠ []) :
    ((listedGroup k g).map Listed.cells).map List.tail
      = ((k.casesOf g).zipIdx 1).map caseCells := by
  rw [cells_listedGroup_of_ne_nil k g h, List.map_map]
  rfl

/-- The rows of all groups, one after the other, are those of the table. -/
theorem flatMap_rowsUnder :
    Group.all.flatMap (fun g => rowsUnder g.name (catalogueTable k).rows)
      = (catalogueTable k).rows := by
  simp only [rowsUnder_rows]
  exact (rows_catalogueTable k).symm

theorem rowsUnder_of_not_implemented (h : g ∉ k.implemented) :
    rowsUnder g.name (catalogueTable k).rows = [[g.name, "-", "not implemented", ""]] := by
  rw [Catalogue.mem_implemented, not_not] at h
  rw [rowsUnder_rows, cells_listedGroup_of_nil k g h]

theorem tail_rowsUnder (h : g ∈ k.implemented) :
    (rowsUnder g.name (catalogueTable k).rows).map List.tail
      = ((k.casesOf g).zipIdx 1).map caseCells := by
  rw [rowsUnder_rows, tail_listedGroup k g (Catalogue.mem_implemented.1 h)]

theorem mem_rows_not_implemented :
    [g.name, "-", "not implemented", ""] ∈ (catalogueTable k).rows ↔ g ∉ k.implemented := by
  rw [← flatMap_rowsUnder, List.mem_flatMap]
  constructor
  · rintro ⟨g', -, hrow⟩ hg
    by_cases hg' : g' ∈ k.implemented
    · -- the row of a case has its number where this row has a hyphen
      have htail := List.mem_map_of_mem (f := List.tail) hrow
      rw [tail_rowsUnder k g' hg', List.mem_map] at htail
      obtain ⟨e, -, he⟩ := htail
      simp only [caseCells, List.tail_cons, List.cons.injEq] at he
      exact toString_ne_hyphen e.2 he.1
    · rw [rowsUnder_of_not_implemented k g' hg', List.mem_singleton] at hrow
      simp only [List.cons.injEq, and_true] at hrow
      exact hg' (Group.name_injective hrow ▸ hg)
  · intro hg
    refine ⟨g, Group.mem_all g, ?_⟩
    rw [rowsUnder_of_not_implemented k g hg]
    exact List.mem_singleton_self _

theorem shownCases_rows : (catalogueTable k).rows.filterMap shownCase
    = (Group.all.flatMap k.casesOf).map fun c => (c.name, c.id) := by
  rw [rows_catalogueTable]
  simp only [List.filterMap_flatMap, List.map_flatMap, shownCase_listedGroup]

end Listing

section Agreement

variable {σ : Type}

/-- The table that lists a catalogue, whatever the catalogue is, agrees with what runs execute. Its
rows that show a case show, from top to bottom, the cases of a full run. It is made of the rows of
the groups. A group has a row that says that it is not implemented exactly if it is not, and then it
has no other; the rows of any other group show the cases that a run of the group executes, in order
and with numbers from one. -/
theorem catalogueTable_agrees (k : Catalogue) (policy : GroupPolicy) :
    let rows := (catalogueTable k).rows
    (∀ (connect : Config → Except TransportError (Transport σ)) started c s (r : Runner σ) log,
      Prepares connect c s.files r log → r.catalogue = k → c.list = true →
        (execute connect started c s).1.out = (catalogueTable k).text ++ "\n")
    ∧ (∃ p, Plan.ofSelection k policy (.ofTargets [wildcard]) = .ok p
      ∧ rows.filterMap shownCase = p.cases.map fun c => (c.name, c.id))
    ∧ Group.all.flatMap (fun g => rowsUnder g.name rows) = rows
    ∧ ∀ g, ∃ p, Plan.ofSelection k policy (.ofTargets [g.name]) = .ok p
      ∧ ([g.name, "-", "not implemented", ""] ∈ rows ↔ g ∉ k.implemented)
      ∧ (g ∉ k.implemented → rowsUnder g.name rows = [[g.name, "-", "not implemented", ""]])
      ∧ (g ∈ k.implemented →
        (rowsUnder g.name rows).map List.tail = (p.cases.zipIdx 1).map caseCells) := by
  intro rows
  refine ⟨?_, ⟨_, Catalogue.ofSelection_wildcard k policy, shownCases_rows k⟩, flatMap_rowsUnder k,
    fun g => ⟨_, Catalogue.ofSelection_name k policy g, mem_rows_not_implemented k g,
      rowsUnder_of_not_implemented k g, tail_rowsUnder k g⟩⟩
  rintro connect started c s r log hp rfl hlist
  rw [execute_of_prepares hp, if_pos hlist]

end Agreement

end Conformance.Console
