import Conformance.Page
import Conformance.Proofs.Clock
import Mathlib.Tactic.SplitIfs
import Std.Data.String.ToNat

/-!
# What a page tells

Data is written without the mark that opens a tag (`ne_of_mem_escapeMarkup`), times and numbers hold
none (`unmarked_pieces`), and behind each such piece on a page stands a fixed text with a mark, so a
piece ends where it seems to end (`Alike.render_append_inj`). Escaping can be undone
(`unescapeMarkup_escape`). A page therefore tells all that it shows: the build, the second of the
start, the counts, the failed cases and every row (`page_eq_iff`).
-/

namespace Conformance

section Escaping

/-- What is written for a character means nothing in markup. -/
theorem ne_of_mem_escapeMarkup {b c : Char} (h : c ∈ escapeMarkup b) :
    c ≠ '<' ∧ c ≠ '>' ∧ c ≠ '"' := by
  have hall : (escapeMarkup b).all (fun c => c ≠ '<' ∧ c ≠ '>' ∧ c ≠ '"') = true := by
    unfold escapeMarkup
    split_ifs with hand hless hgreater hquote hmark
    · rfl
    · rfl
    · rfl
    · rfl
    · rfl
    · simp [hless, hgreater, hquote]
  exact of_decide_eq_true (List.all_eq_true.1 hall c h)

/-- The text that an escaped text stands for. -/
def unescapeMarkup : List Char → List Char
  | '&' :: 'a' :: 'm' :: 'p' :: ';' :: rest => '&' :: unescapeMarkup rest
  | '&' :: 'l' :: 't' :: ';' :: rest => '<' :: unescapeMarkup rest
  | '&' :: 'g' :: 't' :: ';' :: rest => '>' :: unescapeMarkup rest
  | '&' :: 'q' :: 'u' :: 'o' :: 't' :: ';' :: rest => '"' :: unescapeMarkup rest
  | '&' :: '#' :: '3' :: '9' :: ';' :: rest => '\'' :: unescapeMarkup rest
  | c :: rest => c :: unescapeMarkup rest
  | [] => []

theorem unescapeMarkup_cons {c : Char} (h : c ≠ '&') (rest : List Char) :
    unescapeMarkup (c :: rest) = c :: unescapeMarkup rest := by
  rw [unescapeMarkup.eq_6] <;> simp [h]

theorem unescapeMarkup_append (c : Char) (rest : List Char) :
    unescapeMarkup (escapeMarkup c ++ rest) = c :: unescapeMarkup rest := by
  unfold escapeMarkup
  split_ifs with hand hless hgreater hquote hmark
  · exact hand ▸ rfl
  · exact hless ▸ rfl
  · exact hgreater ▸ rfl
  · exact hquote ▸ rfl
  · exact hmark ▸ rfl
  · exact unescapeMarkup_cons hand rest

/-- Escaping can be undone. -/
theorem unescapeMarkup_escape : ∀ s : List Char, unescapeMarkup (s.flatMap escapeMarkup) = s
  | [] => rfl
  | c :: s => by
    rw [List.flatMap_cons, unescapeMarkup_append, unescapeMarkup_escape s]

end Escaping

namespace Piece

section Ends

theorem ne_of_mem_render {s : String} {c : Char} (h : c ∈ (data s).render) :
    c ≠ '<' ∧ c ≠ '>' ∧ c ≠ '"' := by
  obtain ⟨b, -, hc⟩ := List.mem_flatMap.1 h
  exact ne_of_mem_escapeMarkup hc

theorem render_data_inj {s t : String} (h : (data s).render = (data t).render) : s = t := by
  have hchars := congrArg unescapeMarkup h
  rw [render, render, unescapeMarkup_escape, unescapeMarkup_escape] at hchars
  exact String.toList_injective hchars

/-- A text that stands on a page as it is has no mark of a tag. -/
def Unmarked : Piece → Prop
  | .fixed _ | .data _ => True
  | .bare s => ∀ c ∈ s.toList, c ≠ '<' ∧ c ≠ '>' ∧ c ≠ '"'

/-- What has no mark in front of a fixed text in which a tag begins ends where that text begins. -/
theorem append_inj_of_notMem {f : String} {u w x y : List Char} (hf : '<' ∈ f.toList)
    (hu : ∀ c ∈ u, c ≠ '<') (hw : ∀ c ∈ w, c ≠ '<')
    (h : u ++ (f.toList ++ x) = w ++ (f.toList ++ y)) : u = w ∧ x = y := by
  obtain ⟨a, b, hab, ha⟩ := List.eq_append_cons_of_mem hf
  have hfront : ∀ {u : List Char}, (∀ c ∈ u, c ≠ '<') → ∀ c ∈ u ++ a, c ≠ '<' := by
    intro u hu c hc
    rcases List.mem_append.1 hc with hc | hc
    · exact hu c hc
    · exact fun h => ha (h ▸ hc)
  have hsplit : (u ++ a) ++ '<' :: (b ++ x) = (w ++ a) ++ '<' :: (b ++ y) := by
    simpa [hab] using h
  obtain ⟨htexts, hrest⟩ :=
    eq_of_append_eq (hfront hu) (hfront hw) (by simp) (by simp) hsplit
  exact ⟨List.append_cancel_right htexts, List.append_cancel_left (List.cons.inj hrest).2⟩

/-- Pieces that differ in data, times and numbers only, where behind each of these stands a fixed
text in which a tag begins. -/
inductive Alike : List Piece → List Piece → Prop
  | nil : Alike [] []
  | fixed (s : String) {ps qs : List Piece} (h : Alike ps qs) :
    Alike (.fixed s :: ps) (.fixed s :: qs)
  | data (s t f : String) {ps qs : List Piece} (hf : f.toList.contains '<' = true)
      (h : Alike ps qs) : Alike (.data s :: .fixed f :: ps) (.data t :: .fixed f :: qs)
  | bare (s t f : String) {ps qs : List Piece} (hs : (Piece.bare s).Unmarked)
      (ht : (Piece.bare t).Unmarked) (hf : f.toList.contains '<' = true) (h : Alike ps qs) :
      Alike (.bare s :: .fixed f :: ps) (.bare t :: .fixed f :: qs)

theorem Alike.append {ps qs ps' qs' : List Piece} (h : Alike ps qs) (h' : Alike ps' qs') :
    Alike (ps ++ ps') (qs ++ qs') := by
  induction h with
  | nil => exact h'
  | fixed s _ ih => exact ih.fixed s
  | data s t f hf _ ih => exact ih.data s t f hf
  | bare s t f hs ht hf _ ih => exact ih.bare s t f hs ht hf

theorem Alike.unmarked {ps qs : List Piece} (h : Alike ps qs) : ∀ p ∈ ps, p.Unmarked := by
  induction h with
  | nil => simp
  | fixed s _ ih => exact List.forall_mem_cons.2 ⟨trivial, ih⟩
  | data s t f _ _ ih =>
    exact List.forall_mem_cons.2 ⟨trivial, List.forall_mem_cons.2 ⟨trivial, ih⟩⟩
  | bare s t f hs _ _ _ ih =>
    exact List.forall_mem_cons.2 ⟨hs, List.forall_mem_cons.2 ⟨trivial, ih⟩⟩

/-- Alike pieces are told by their text. -/
theorem Alike.render_append_inj {ps qs : List Piece} {x y : List Char} (ha : Alike ps qs)
    (h : ps.flatMap render ++ x = qs.flatMap render ++ y) : ps = qs ∧ x = y := by
  induction ha with
  | nil => exact ⟨rfl, h⟩
  | fixed s _ ih =>
    rw [List.flatMap_cons, List.flatMap_cons, List.append_assoc, List.append_assoc] at h
    obtain ⟨rfl, hxy⟩ := ih (List.append_cancel_left h)
    exact ⟨rfl, hxy⟩
  | data s t f hf _ ih =>
    simp only [List.flatMap_cons, List.append_assoc] at h
    obtain ⟨hdata, hrest⟩ := append_inj_of_notMem (List.contains_iff_mem.1 hf)
      (fun c hc => (ne_of_mem_render hc).1) (fun c hc => (ne_of_mem_render hc).1) h
    obtain rfl := render_data_inj hdata
    obtain ⟨rfl, hxy⟩ := ih hrest
    exact ⟨rfl, hxy⟩
  | bare s t f hs ht hf _ ih =>
    simp only [List.flatMap_cons, List.append_assoc] at h
    obtain ⟨htext, hrest⟩ := append_inj_of_notMem (List.contains_iff_mem.1 hf)
      (fun c hc => (hs c hc).1) (fun c hc => (ht c hc).1) h
    obtain rfl := String.toList_injective htext
    obtain ⟨rfl, hxy⟩ := ih hrest
    exact ⟨rfl, hxy⟩

end Ends

end Piece

namespace RunReport

section Blocks

open Piece

/-- The pieces in front of the failed cases. -/
def opening (r : RunReport) : List Piece :=
  r.headPieces ++ r.countPieces ++ [.fixed "    <h2>Failed test cases</h2>\n    "]

/-- The piece between the failed cases and the rows. -/
def middle : Piece := fixedLines ["", "    <h2>Results</h2>", "    <table>",
  "      <tr><th>#</th><th>Test case</th><th>Response</th><th>Status</th><th>Message</th></tr>"]

/-- The piece behind the rows. -/
def closing : Piece := fixedLines ["    </table>", "  </body>", "</html>"]

theorem pieces_eq (r : RunReport) : r.pieces
    = r.opening ++ (failedPieces r.failed ++ [middle] ++ (tablePieces 1 r.rows ++ [closing])) := by
  simp only [pieces, opening, middle, closing, List.append_assoc]

theorem toList_page (r : RunReport) : r.page.toList
    = r.opening.flatMap render ++ ((failedPieces r.failed ++ [middle]).flatMap render
      ++ ((tablePieces 1 r.rows).flatMap render ++ closing.render)) := by
  rw [page, String.toList_ofList, pieces_eq]
  simp only [List.flatMap_append, List.flatMap_cons, List.flatMap_nil, List.append_nil]

theorem unmarked_plain (c : Clock) : (bare c.plain).Unmarked := by
  have hless := c.notMem_plain (x := '<') (by decide) (by decide)
  have hgreater := c.notMem_plain (x := '>') (by decide) (by decide)
  have hquote := c.notMem_plain (x := '"') (by decide) (by decide)
  exact fun b hb => ⟨fun h => hless (h ▸ hb), fun h => hgreater (h ▸ hb), fun h => hquote (h ▸ hb)⟩

theorem unmarked_toString (n : Nat) : (bare (toString n)).Unmarked := by
  intro c hc
  have hdigit : c.isDigit = true :=
    Nat.isDigit_of_mem_toDigits (b := 10) (by decide) (by decide) (by simpa using hc)
  refine ⟨?_, ?_, ?_⟩ <;> rintro rfl <;> exact absurd hdigit (by decide)

theorem alike_headPieces (r r' : RunReport) : Alike r.headPieces r'.headPieces := by
  unfold headPieces
  exact .fixed _ (.fixed _ (.data _ _ _ rfl (.fixed _ .nil)))

theorem alike_countPieces (r r' : RunReport) : Alike r.countPieces r'.countPieces := by
  have hnumber := unmarked_toString
  unfold countPieces
  exact .fixed _ (.data _ _ _ rfl (.bare _ _ _ (unmarked_plain _) (unmarked_plain _) rfl
    (.fixed _ (.bare _ _ _ (hnumber _) (hnumber _) rfl (.bare _ _ _ (hnumber _) (hnumber _) rfl
    (.bare _ _ _ (hnumber _) (hnumber _) rfl .nil))))))

theorem alike_opening (r r' : RunReport) : Alike r.opening r'.opening :=
  ((alike_headPieces r r').append (alike_countPieces r r')).append (.fixed _ .nil)

/-- The item of a failed case. -/
def failedItem (id : String) : List Piece := [.fixed "<li>", .data id, .fixed "</li>"]

theorem failedPieces_cons (id : String) (ids : List String) : failedPieces (id :: ids)
    = .fixed "<ul>" :: ((id :: ids).flatMap failedItem ++ [.fixed "</ul>"]) := rfl

theorem alike_failedItems : ∀ {ids ids' : List String}, ids.length = ids'.length →
    Alike (ids.flatMap failedItem) (ids'.flatMap failedItem)
  | [], [], _ => .nil
  | _ :: _, _ :: _, h => .fixed _ (.data _ _ _ rfl (alike_failedItems (Nat.succ.inj h)))

theorem alike_failedPieces {ids ids' : List String} (h : ids.length = ids'.length) :
    Alike (failedPieces ids) (failedPieces ids') := by
  have hitems := alike_failedItems h
  rcases ids with _ | ⟨id, ids⟩ <;> rcases ids' with _ | ⟨id', ids'⟩
  · exact .fixed _ .nil
  · simp at h
  · simp at h
  · exact (hitems.append (.fixed _ .nil)).fixed _

theorem alike_rowPieces (m n : Nat) {r r' : Row} (h : r.status = r'.status) :
    Alike (rowPieces m r) (rowPieces n r') := by
  unfold rowPieces
  rw [h]
  refine .fixed _ (.bare _ _ _ (unmarked_toString m) (unmarked_toString n) rfl (.data _ _ _ rfl
    (.data _ _ _ ?_ (.data _ _ _ rfl .nil))))
  rcases r'.status with _ | _ <;> rfl

theorem alike_tablePieces : ∀ (n : Nat) {rows rows' : List Row},
    rows.map (·.status) = rows'.map (·.status) →
      Alike (tablePieces n rows) (tablePieces n rows')
  | _, [], [], _ => .nil
  | n, r :: rows, r' :: rows', h => by
    obtain ⟨hstatus, hrest⟩ := List.cons.inj h
    exact (alike_rowPieces n n hstatus).append (alike_tablePieces (n + 1) hrest)
  | _, [], _ :: _, h => by simp at h
  | _, _ :: _, [], h => by simp at h

/-- Reports with the same statuses and as many failed cases have pages that differ in data, times
and numbers only. -/
theorem alike_pieces {r r' : RunReport} (hrows : r.rows.map (·.status) = r'.rows.map (·.status))
    (hfailed : r.failed.length = r'.failed.length) : Alike r.pieces r'.pieces := by
  have hmiddle : Alike [middle] [middle] := .fixed _ .nil
  have hclosing : Alike [closing] [closing] := .fixed _ .nil
  rw [pieces_eq, pieces_eq]
  exact (alike_opening r r').append (((alike_failedPieces hfailed).append hmiddle).append
    ((alike_tablePieces 1 hrows).append hclosing))

/-- No time and no number on a page holds a mark. -/
theorem unmarked_pieces (r : RunReport) : ∀ p ∈ r.pieces, p.Unmarked :=
  (alike_pieces (r := r) rfl rfl).unmarked

end Blocks

section Telling

open Piece

theorem failedItems_inj : ∀ {ids ids' : List String},
    ids.flatMap failedItem = ids'.flatMap failedItem → ids = ids'
  | [], [], _ => rfl
  | [], _ :: _, h => by simp [failedItem] at h
  | _ :: _, [], h => by simp [failedItem] at h
  | id :: ids, id' :: ids', h => by
    simp only [failedItem, List.flatMap_cons, List.cons_append, List.nil_append, List.cons.injEq,
      data.injEq, true_and] at h
    rw [h.1, failedItems_inj h.2]

theorem failedPieces_inj {ids ids' : List String} (hlen : ids.length = ids'.length)
    (h : failedPieces ids = failedPieces ids') : ids = ids' := by
  rcases ids with _ | ⟨id, ids⟩ <;> rcases ids' with _ | ⟨id', ids'⟩
  · rfl
  · simp at hlen
  · simp at hlen
  · rw [failedPieces_cons, failedPieces_cons, List.cons.injEq] at h
    exact failedItems_inj (List.append_cancel_right h.2)

theorem row_text (n : Nat) (r : Row) (x : List Char) :
    ∃ rest, (rowPieces n r).flatMap render ++ x
      = "      <tr class=\"".toList ++ ((className r.status).toList ++ rest) := by
  simp [rowPieces, render]

/-- The class in front of a row tells its status. -/
theorem status_eq_of_row_text {n : Nat} {r r' : Row} {x y : List Char}
    (h : (rowPieces n r).flatMap render ++ x = (rowPieces n r').flatMap render ++ y) :
    r.status = r'.status := by
  obtain ⟨rest, hr⟩ := row_text n r x
  obtain ⟨rest', hr'⟩ := row_text n r' y
  rw [hr, hr'] at h
  have hclass := List.append_cancel_left h
  rcases hs : r.status with _ | _ <;> rcases hs' : r'.status with _ | _ <;>
    simp [className, hs, hs'] at hclass ⊢

/-- A row does not begin as what stands behind the rows. -/
theorem row_text_ne_closing (n : Nat) (r : Row) (x : List Char) :
    (rowPieces n r).flatMap render ++ x ≠ closing.render := by
  obtain ⟨rest, hr⟩ := row_text n r x
  obtain ⟨rest', hclosing⟩ : ∃ rest', closing.render = "    </table>".toList ++ rest' :=
    ⟨_, rfl⟩
  rw [hr, hclosing]
  simp

theorem rows_eq_of_text : ∀ {n : Nat} {rows rows' : List Row},
    (tablePieces n rows).flatMap render ++ closing.render
      = (tablePieces n rows').flatMap render ++ closing.render → rows = rows'
  | _, [], [], _ => rfl
  | n, [], r :: rows, h => by
    rw [tablePieces, tablePieces, List.flatMap_append, List.append_assoc] at h
    exact absurd h.symm (row_text_ne_closing n r _)
  | n, r :: rows, [], h => by
    rw [tablePieces, tablePieces, List.flatMap_append, List.append_assoc] at h
    exact absurd h (row_text_ne_closing n r _)
  | n, r :: rows, r' :: rows', h => by
    rw [tablePieces, tablePieces, List.flatMap_append, List.flatMap_append, List.append_assoc,
      List.append_assoc] at h
    have hstatus := status_eq_of_row_text h
    obtain ⟨hrow, hrest⟩ := (alike_rowPieces n n hstatus).render_append_inj h
    rw [rows_eq_of_text hrest]
    simp only [rowPieces, List.cons.injEq, data.injEq, true_and] at hrow
    obtain ⟨-, hid, hresponse, -, hmessage, -⟩ := hrow
    obtain ⟨testId, response, status, message⟩ := r
    obtain ⟨testId', response', status', message'⟩ := r'
    simp only [List.cons.injEq, Row.mk.injEq, and_true]
    exact ⟨hid, hresponse, hstatus, hmessage⟩

theorem opening_inj {r r' : RunReport} (h : r.opening = r'.opening) :
    r.buildName = r'.buildName ∧ r.started.plain = r'.started.plain
      ∧ r.passed.length = r'.passed.length ∧ r.failed.length = r'.failed.length := by
  simp only [opening, headPieces, countPieces, List.cons_append, List.nil_append, List.cons.injEq,
    data.injEq, bare.injEq, true_and, and_true] at h
  obtain ⟨hbuild, -, hstarted, -, hpassed, hfailed⟩ := h
  exact ⟨hbuild, hstarted, Nat.repr_injective hpassed, Nat.repr_injective hfailed⟩

/-- Two reports have one page exactly if they have the same build, start within the same second,
have as many cases that passed, and agree in the failed cases and in all rows. -/
theorem page_eq_iff (r r' : RunReport) : r.page = r'.page ↔
    r.buildName = r'.buildName ∧ r.started.toSecond = r'.started.toSecond
      ∧ r.passed.length = r'.passed.length ∧ r.failed = r'.failed ∧ r.rows = r'.rows := by
  constructor
  · intro h
    have htext := congrArg String.toList h
    rw [toList_page, toList_page] at htext
    -- first what is counted, then the failed cases, of which there are as many, and then the rows
    obtain ⟨hopening, htext⟩ := (alike_opening r r').render_append_inj htext
    obtain ⟨hbuild, hstarted, hpassed, hcount⟩ := opening_inj hopening
    have hmiddle : Alike [middle] [middle] := .fixed _ .nil
    obtain ⟨hfailed, htext⟩ :=
      ((alike_failedPieces hcount).append hmiddle).render_append_inj htext
    exact ⟨hbuild, (Clock.plain_eq_iff _ _).1 hstarted, hpassed,
      failedPieces_inj hcount (List.append_cancel_right hfailed), rows_eq_of_text htext⟩
  · rintro ⟨hbuild, hstarted, hpassed, hfailed, hrows⟩
    have hplain := (Clock.plain_eq_iff _ _).2 hstarted
    simp only [page, pieces, headPieces, countPieces, total, hbuild, hplain, hpassed, hfailed,
      hrows]

/-- Two reports with one page: they differ in the ids of the cases that passed and in the fraction
of a second. -/
theorem page_eq_of_twins :
    let r : RunReport :=
      ⟨"b&amp;", ⟨2024, 3, 5, 14, 7, 9, 1⟩, [⟨"a", "</code>", .fail, "'"⟩], ["p"], ["a"]⟩
    let r' : RunReport :=
      ⟨"b&amp;", ⟨2024, 3, 5, 14, 7, 9, 2⟩, [⟨"a", "</code>", .fail, "'"⟩], ["q"], ["a"]⟩
    r ≠ r' ∧ r.page = r'.page := by
  intro r r'
  exact ⟨by decide, (page_eq_iff r r').2 ⟨rfl, by decide, rfl, rfl, rfl⟩⟩

end Telling

end RunReport

end Conformance
