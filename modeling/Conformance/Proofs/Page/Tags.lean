import Conformance.Proofs.Page

/-!
# The tags of a page

Every tag of a page begins and ends within one fixed piece, and the other pieces hold none of the
characters that tags are made of: data is escaped, and times and numbers have none. So the tags of a
page are those of its fixed pieces (`tags_render`), and every such character stands in one of them
(`standsInFixed_of_mark`). Reports with the same statuses and as many failed cases have the same
fixed pieces in the same places, and so the same tags, whatever their data (`tags_page`).
-/

namespace Conformance

section Tags

/-- The texts between each mark that opens a tag and the next mark that closes one. -/
def tags : List Char → List (List Char)
  | [] => []
  | c :: rest =>
    if c = '<' && rest.contains '>' then rest.takeWhile (· ≠ '>') :: tags rest else tags rest

/-- Every tag that begins in the text ends there. -/
def closesTags : List Char → Bool
  | [] => true
  | c :: rest => (c ≠ '<' || rest.contains '>') && closesTags rest

theorem takeWhile_append_of_mem {p : Char → Bool} {s : List Char} (h : ∃ c ∈ s, p c = false)
    (t : List Char) : (s ++ t).takeWhile p = s.takeWhile p := by
  obtain ⟨c, hc, hp⟩ := h
  obtain ⟨a, b, rfl, -⟩ := List.eq_append_cons_of_mem hc
  have hstop : ∀ u, (c :: u).takeWhile p = [] :=
    fun u => List.takeWhile_cons_of_neg (by simp [hp])
  rw [List.append_assoc, List.cons_append, List.takeWhile_append, List.takeWhile_append, hstop,
    hstop]

theorem tags_append : ∀ {s t : List Char}, closesTags s = true → tags (s ++ t) = tags s ++ tags t
  | [], _, _ => rfl
  | c :: s, t, h => by
    simp only [closesTags, Bool.and_eq_true] at h
    obtain ⟨hc, hs⟩ := h
    have ih := tags_append (t := t) hs
    by_cases hopen : c = '<'
    · have hend : '>' ∈ s := by simpa [hopen] using hc
      have hmark := takeWhile_append_of_mem (p := fun c => !decide (c = '>')) ⟨_, hend, rfl⟩ t
      simp [tags, hopen, hend, hmark, ih]
    · simp [tags, hopen, ih]

theorem tags_eq_nil : ∀ {s : List Char}, '<' ∉ s → tags s = []
  | [], _ => rfl
  | c :: s, h => by
    simp only [List.mem_cons, not_or] at h
    rw [tags, if_neg (by simp [Ne.symm h.1]), tags_eq_nil h.2]

theorem closesTags_of_notMem : ∀ {s : List Char}, '<' ∉ s → closesTags s = true
  | [], _ => rfl
  | c :: s, h => by
    simp only [List.mem_cons, not_or] at h
    simp [closesTags, Ne.symm h.1, closesTags_of_notMem h.2]

theorem closesTags_append : ∀ {s t : List Char}, closesTags s = true → closesTags t = true →
    closesTags (s ++ t) = true
  | [], _, _, ht => ht
  | c :: s, t, hs, ht => by
    simp only [closesTags, Bool.and_eq_true, Bool.or_eq_true] at hs
    rw [List.cons_append, closesTags, closesTags_append hs.2 ht]
    rcases hs.1 with hc | hc
    · simp [hc]
    · simp [List.contains_iff_mem.1 hc]

theorem closesTags_flatMap {α : Type} {f : α → List Char} {xs : List α}
    (h : ∀ x ∈ xs, closesTags (f x) = true) : closesTags (xs.flatMap f) = true := by
  induction xs with
  | nil => rfl
  | cons x xs ih =>
    rw [List.flatMap_cons]
    exact closesTags_append (h x (by simp)) (ih fun y hy => h y (by simp [hy]))

/-- A literal is checked as the list of its characters, which are not read from its bytes. -/
theorem closesTags_literal {s : String} (cs : List Char) (hs : s = String.ofList cs)
    (h : closesTags cs = true) : closesTags s.toList = true := by
  rw [hs, String.toList_ofList, h]

end Tags

namespace Piece

/-- The piece without what comes from the run. -/
def outline : Piece → Piece
  | .fixed s => .fixed s
  | .data _ => .data ""
  | .bare _ => .bare ""

/-- Every tag that begins in the piece ends there. -/
def closes (p : Piece) : Bool := closesTags p.outline.render

theorem closes_data (s : String) : (data s).closes = true := rfl

theorem closes_bare (s : String) : (bare s).closes = true := rfl

theorem Alike.outline_eq {ps qs : List Piece} (h : Alike ps qs) :
    ps.map outline = qs.map outline := by
  induction h with
  | nil => rfl
  | fixed s _ ih => rw [List.map_cons, List.map_cons, ih]
  | data s t f _ _ ih => rw [List.map_cons, List.map_cons, List.map_cons, List.map_cons, ih]; rfl
  | bare s t f _ _ _ _ ih =>
    rw [List.map_cons, List.map_cons, List.map_cons, List.map_cons, ih]
    rfl

theorem notMem_render_data (s : String) : '<' ∉ (data s).render :=
  fun h => (ne_of_mem_render h).1 rfl

/-- The tags of pieces are those of their outlines. -/
theorem tags_render : ∀ {ps : List Piece}, ps.all closes = true → (∀ p ∈ ps, p.Unmarked) →
    tags (ps.flatMap render) = (ps.map outline).flatMap fun p => tags p.render
  | [], _, _ => rfl
  | p :: ps, h, hmarks => by
    simp only [List.all_cons, Bool.and_eq_true] at h
    rw [List.forall_mem_cons] at hmarks
    have ih := tags_render h.2 hmarks.2
    rw [List.flatMap_cons, List.map_cons, List.flatMap_cons, ← ih]
    cases p with
    | fixed s => exact tags_append h.1
    | data s =>
      have hdata := notMem_render_data s
      rw [tags_append (closesTags_of_notMem hdata), tags_eq_nil hdata]
      rfl
    | bare s =>
      have hbare : '<' ∉ (bare s).render := fun hmem => (hmarks.1 _ hmem).1 rfl
      rw [tags_append (closesTags_of_notMem hbare), tags_eq_nil hbare]
      rfl

theorem Alike.all_closes {ps qs : List Piece} (h : Alike ps qs) :
    ps.all closes = qs.all closes := by
  have hall : ∀ ps : List Piece, ps.all closes
      = (ps.map outline).all fun p => closesTags p.render := by
    intro ps
    rw [List.all_map]
    rfl
  rw [hall, hall, h.outline_eq]

/-- The character between the two texts stands in a fixed piece. -/
def StandsInFixed (ps : List Piece) (before : List Char) (c : Char) (after : List Char) : Prop :=
  ∃ qs s rs a b, ps = qs ++ .fixed s :: rs ∧ s.toList = a ++ c :: b
    ∧ before = qs.flatMap render ++ a ∧ after = b ++ rs.flatMap render

theorem StandsInFixed.cons {ps : List Piece} {before after : List Char} {c : Char}
    (h : StandsInFixed ps before c after) (p : Piece) :
    StandsInFixed (p :: ps) (p.render ++ before) c after := by
  obtain ⟨qs, s, rs, a, b, rfl, hs, rfl, rfl⟩ := h
  exact ⟨p :: qs, s, rs, a, b, rfl, hs, by simp, rfl⟩

/-- Every mark in the text of pieces stands in a fixed piece. -/
theorem standsInFixed_of_mark {c : Char} (hc : c = '<' ∨ c = '>' ∨ c = '"') :
    ∀ {ps : List Piece} {before after : List Char}, (∀ p ∈ ps, p.Unmarked) →
      ps.flatMap render = before ++ c :: after → StandsInFixed ps before c after
  | [], before, after, _, h => by simp at h
  | p :: ps, before, after, hmarks, h => by
    rw [List.forall_mem_cons] at hmarks
    rw [List.flatMap_cons, List.append_eq_append_iff] at h
    -- the mark stands behind the first piece, or right behind it, or within it
    obtain ⟨front, rfl, hrest⟩ | ⟨back, hp, hback⟩ := h
    · exact (standsInFixed_of_mark hc hmarks.2 hrest).cons p
    rcases back with _ | ⟨d, b⟩
    · rw [List.append_nil] at hp
      rw [List.nil_append] at hback
      have htail : StandsInFixed ps [] c after := standsInFixed_of_mark hc hmarks.2 hback.symm
      have hcons := htail.cons p
      rwa [List.append_nil, hp] at hcons
    obtain ⟨rfl, rfl⟩ := List.cons.inj hback
    have hmem : c ∈ p.render := by
      rw [hp]
      simp
    have hmarked : ¬ (c ≠ '<' ∧ c ≠ '>' ∧ c ≠ '"') := by
      rintro ⟨hless, hgreater, hquote⟩
      rcases hc with h | h | h
      · exact hless h
      · exact hgreater h
      · exact hquote h
    cases p with
    | fixed s => exact ⟨[], s, ps, before, b, rfl, hp, rfl, rfl⟩
    | data s => exact absurd (ne_of_mem_render hmem) hmarked
    | bare s => exact absurd (hmarks.1 c hmem) hmarked

end Piece

namespace RunReport

open Piece

theorem closes_fixedLines {lines : List String}
    (h : lines.all (fun l => closesTags l.toList) = true) : (fixedLines lines).closes = true := by
  change closesTags (String.join _).toList = true
  rw [String.toList_join, List.flatMap_map]
  refine closesTags_flatMap fun l hl => ?_
  rw [String.toList_append]
  exact closesTags_append (List.all_eq_true.1 h l hl) (by decide +kernel)

theorem closes_styleLines : styleLines.all (fun l => closesTags l.toList) = true := by
  simp only [styleLines, List.all_cons, List.all_nil, String.toList_append, Bool.and_true,
    Bool.and_eq_true]
  refine ⟨closesTags_append ?_ ?_, ?_, closesTags_append ?_ ?_, ?_, ?_, ?_, ?_, ?_⟩ <;>
    exact closesTags_literal _ rfl rfl

theorem closes_headPieces (r : RunReport) : r.headPieces.all closes = true := by
  simp only [headPieces, List.all_cons, List.all_nil, closes_data, Bool.true_and, Bool.and_true,
    Bool.and_eq_true]
  refine ⟨closes_fixedLines ?_, ?_, ?_, closes_fixedLines ?_⟩
  · simp only [List.all_cons, List.all_nil, Bool.and_true, Bool.and_eq_true]
    and_intros <;> exact closesTags_literal _ rfl rfl
  · exact closesTags_literal _ rfl rfl
  · exact closesTags_literal _ rfl rfl
  · simp only [List.all_append, closes_styleLines, List.all_cons, List.all_nil, Bool.and_true,
      Bool.and_eq_true]
    and_intros <;> exact closesTags_literal _ rfl rfl

theorem closes_countPieces (r : RunReport) : r.countPieces.all closes = true := by
  simp only [countPieces, List.all_cons, List.all_nil, closes_data, closes_bare, Bool.true_and,
    Bool.and_true, Bool.and_eq_true]
  and_intros <;> exact closesTags_literal _ rfl rfl

theorem closes_opening (r : RunReport) : r.opening.all closes = true := by
  rw [opening, List.all_append, List.all_append, closes_headPieces, closes_countPieces]
  simp only [List.all_cons, List.all_nil, Bool.and_true, Bool.true_and]
  exact closesTags_literal _ rfl rfl

theorem closes_failedItems : ∀ ids : List String, (ids.flatMap failedItem).all closes = true
  | [] => rfl
  | id :: ids => by
    rw [List.flatMap_cons, List.all_append, closes_failedItems ids]
    rfl

theorem closes_failedPieces (ids : List String) : (failedPieces ids).all closes = true := by
  rcases ids with _ | ⟨id, ids⟩
  · rfl
  · rw [failedPieces_cons, List.all_cons, List.all_append, closes_failedItems]
    rfl

theorem closes_rowPieces (n : Nat) (r : Row) : (rowPieces n r).all closes = true := by
  have hblank : Alike (rowPieces n r) (rowPieces 0 ⟨"", "", r.status, ""⟩) :=
    alike_rowPieces n 0 rfl
  rw [hblank.all_closes]
  rcases r.status with _ | _ <;> decide +kernel

theorem closes_tablePieces : ∀ (n : Nat) (rows : List Row),
    (tablePieces n rows).all closes = true
  | _, [] => rfl
  | n, r :: rows => by
    rw [tablePieces, List.all_append, closes_rowPieces, closes_tablePieces (n + 1) rows]
    rfl

theorem closes_middle : middle.closes = true := by
  refine closes_fixedLines ?_
  simp only [List.all_cons, List.all_nil, Bool.and_true, Bool.and_eq_true]
  and_intros <;> exact closesTags_literal _ rfl rfl

theorem closes_closing : closing.closes = true := by
  refine closes_fixedLines ?_
  simp only [List.all_cons, List.all_nil, Bool.and_true, Bool.and_eq_true]
  and_intros <;> exact closesTags_literal _ rfl rfl

theorem closes_pieces (r : RunReport) : r.pieces.all closes = true := by
  rw [pieces_eq]
  simp only [List.all_append, closes_opening, closes_failedPieces, closes_tablePieces,
    List.all_cons, List.all_nil, closes_middle, closes_closing, Bool.and_true]

/-- Reports with the same statuses and as many failed cases have pages with the same tags: the pages
differ in their data only, and every mark of a page stands in a fixed piece. -/
theorem tags_page (r r' : RunReport) (hrows : r.rows.map (·.status) = r'.rows.map (·.status))
    (hfailed : r.failed.length = r'.failed.length) :
    tags r.page.toList = tags r'.page.toList
      ∧ r.pieces.map outline = r'.pieces.map outline
      ∧ ∀ q ∈ [r, r'], ∀ (before after : List Char) (c : Char), c = '<' ∨ c = '>' ∨ c = '"' →
        q.page.toList = before ++ c :: after → StandsInFixed q.pieces before c after := by
  have houtline := (alike_pieces hrows hfailed).outline_eq
  have hpage : ∀ q : RunReport, q.page.toList = q.pieces.flatMap render :=
    fun q => String.toList_ofList
  refine ⟨?_, houtline, fun q _ before after c hc h => ?_⟩
  · rw [hpage, hpage, tags_render (closes_pieces r) r.unmarked_pieces,
      tags_render (closes_pieces r') r'.unmarked_pieces, houtline]
  · exact standsInFixed_of_mark hc q.unmarked_pieces ((hpage q).symm.trans h)

/-- Two reports, one with markup in all its data. -/
theorem tags_page_hostile :
    let r : RunReport :=
      ⟨"b", ⟨2024, 3, 5, 14, 7, 9, 1⟩, [⟨"a", "{}", .fail, "no"⟩], ["p"], ["a"]⟩
    let r' : RunReport :=
      ⟨"</b>", default, [⟨"<td>", "<script>\"&lt;", .fail, "'>"⟩], [], ["</ul><h1>"]⟩
    r.rows.map (·.status) = r'.rows.map (·.status) ∧ r.failed.length = r'.failed.length
      ∧ tags r.page.toList = tags r'.page.toList := by
  intro r r'
  exact ⟨rfl, rfl, (tags_page r r' rfl rfl).1⟩

end RunReport

end Conformance
