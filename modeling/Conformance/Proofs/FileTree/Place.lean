import Conformance.Proofs.FileTree
import Conformance.Proofs.Path.Inside

/-!
# Places that paths lead to

What a tree holds decides whether a path leads anywhere, but not where: that is told by the home
directory and the names of the path (`locate_place`). A path inside a directory leads to a place
below that of the directory (`place_of_inside`).

`SameAt p t u` says that a file at the place `p` is the same in both trees. Making directories keeps
it everywhere (`sameAt_makeDirectories`), and writing at a path everywhere but at its place
(`sameAt_write`, `sameAt_append`).
-/

namespace Conformance.FileTree

variable {t u v : FileTree} {path : String}

section Places

/-- Follows names from a place. Two points lead upwards. -/
def descend (p : Place) (names : List String) : Place :=
  names.foldl (fun p name => if name = ".." then p.dropLast else p ++ [name]) p

/-- The place that a path leads to where all places on the way are directories. -/
def place (home : Place) (path : String) : Place :=
  descend (if Path.isAbsolute path then [] else home) (Path.names path)

theorem descend_append (p : Place) (as bs : List String) :
    descend p (as ++ bs) = descend (descend p as) bs := List.foldl_append

theorem descend_of_notMem : ∀ {names : List String} (p : Place), ".." ∉ names →
    descend p names = p ++ names
  | [], p, _ => (List.append_nil p).symm
  | name :: names, p, h => by
    rw [List.mem_cons, not_or] at h
    have ih := descend_of_notMem (p ++ [name]) h.2
    rw [List.append_assoc, List.singleton_append] at ih
    rw [← ih]
    simp only [descend, List.foldl_cons, if_neg (Ne.symm h.1)]

theorem follow_descend : ∀ (names : List String) {p q : Place}, t.follow p names = .ok q →
    q = descend p names
  | [], p, q, h => by
    simp only [follow, Except.ok.injEq] at h
    exact h.symm
  | name :: rest, p, q, h => by
    have hcons : descend p (name :: rest)
        = descend (if name = ".." then p.dropLast else p ++ [name]) rest := rfl
    unfold follow at h
    rcases hp : t.lookup p with _ | (_ | _) <;> rw [hp] at h
    · simp at h
    · simp only [] at h
      split_ifs at h with hup
      · rw [hcons, if_pos hup]
        exact follow_descend rest h
      · rw [hcons, if_neg hup]
        exact follow_descend rest h
    · simp at h

/-- A path that leads anywhere leads to its place. -/
theorem locate_place {p : Place} (h : t.locate path = .ok p) : p = place t.home path := by
  unfold locate at h
  split_ifs at h with h0 h1 h2 habs
  · rw [place, if_pos habs]
    exact follow_descend _ h
  · rw [place, if_neg habs]
    exact follow_descend _ h

/-- A path inside a directory leads to a place below that of the directory. -/
theorem place_of_inside {dir : String} (h : Path.Inside dir path) (home : Place) :
    ∃ rest, rest ≠ [] ∧ place home path = place home dir ++ rest := by
  obtain ⟨hroot, rest, hne, hup, hnames⟩ := h
  refine ⟨rest, hne, ?_⟩
  unfold place
  rw [hroot, hnames, descend_append, descend_of_notMem _ hup]

theorem place_join (home : Place) (dir : String) {path : String}
    (h : Path.isAbsolute path = false) (hup : ".." ∉ Path.names path) :
    place home (Path.join dir path) = place home dir ++ Path.names path := by
  unfold place
  rw [Path.isAbsolute_join dir h, Path.names_join dir h, descend_append, descend_of_notMem _ hup]

/-- Behind a directory, names that do not lead upwards and a single name lead to one place exactly
if they are the same. -/
theorem place_join_eq_iff {home : Place} {dir path name : String}
    (hpath : Path.isAbsolute path = false) (hup : ".." ∉ Path.names path)
    (hname : Path.isAbsolute name = false) (hnames : Path.names name = [name]) (hne : name ≠ "..") :
    place home (Path.join dir path) = place home (Path.join dir name)
      ↔ Path.names path = [name] := by
  have hup' : ".." ∉ Path.names name := by simpa [hnames] using Ne.symm hne
  rw [place_join home dir hpath hup, place_join home dir hname hup', hnames,
    List.append_cancel_left_eq]

theorem home_write {content : ByteArray} (h : t.write path content = .ok u) : u.home = t.home := by
  obtain ⟨p, x, -, -, -, rfl⟩ := write_ok h
  rfl

/-- What a path finds after writing at another depends on whether both lead to one place. -/
theorem find_write_other {content old : ByteArray} {other : String} {p : Place} {x : Bool}
    (h : t.write path content = .ok u) (hf : t.find other = .ok (p, .file old x)) :
    ∃ y, u.find other
      = .ok (p, .file (if place t.home path = place t.home other then content else old) y) := by
  obtain ⟨q, z, hq, hdir, -, rfl⟩ := write_ok h
  obtain ⟨hl, -, hn⟩ := find_eq_ok_iff.1 hf
  rw [← locate_place hq, ← locate_place hl]
  split_ifs with heq
  · subst heq
    exact ⟨z, find_put_self hl hdir (by simpa using hn) content z⟩
  · exact ⟨x, find_put_of_ne hdir heq hf⟩

end Places

section SameAt

variable {p : Place}

/-- The bytes of the file at a place. -/
def bytesAt? (t : FileTree) (p : Place) : Option ByteArray :=
  match t.lookup p with
  | some (.file content _) => some content
  | _ => none

/-- Both trees have the same home and the same file, or none, at the place. -/
structure SameAt (p : Place) (t u : FileTree) : Prop where
  home : u.home = t.home
  bytes : u.bytesAt? p = t.bytesAt? p

theorem SameAt.refl (p : Place) (t : FileTree) : SameAt p t t := ⟨rfl, rfl⟩

theorem SameAt.trans (h : SameAt p t u) (h' : SameAt p u v) : SameAt p t v :=
  ⟨h'.home.trans h.home, h'.bytes.trans h.bytes⟩

theorem sameAt_put {q : Place} (h : t.lookup q ≠ some .directory) (hne : q ≠ p) (e : Entry) :
    SameAt p t (t.put q e) := by
  refine ⟨rfl, ?_⟩
  unfold bytesAt?
  rw [lookup_put_of_ne (ne_nil_of_lookup h) hne]

theorem sameAt_makeDirectory (h : t.makeDirectory path = .ok u) : SameAt p t u := by
  unfold makeDirectory at h
  obtain ⟨q, -, h⟩ := bind_eq_ok_iff.1 h
  rcases hq : t.lookup q with _ | (_ | _) <;> rw [hq] at h
  · simp only [] at h
    split_ifs at h
    simp only [pure_eq_ok, Except.ok.injEq] at h
    subst h
    have hdir : t.lookup q ≠ some .directory := by simp [hq]
    by_cases hne : q = p
    · -- where nothing was, a directory is no file either
      subst hne
      refine ⟨rfl, ?_⟩
      unfold bytesAt?
      rw [lookup_put_self hdir, hq]
    · exact sameAt_put hdir hne _
  · simp at h
  · simp at h

/-- Making directories leaves every file as it is. -/
theorem sameAt_makeDirectories (p : Place) (t : FileTree) (path : String) :
    SameAt p t (t.makeDirectories path).2 :=
  related_makeDirectories (SameAt.refl p) SameAt.trans sameAt_makeDirectory t path

theorem sameAt_write {content : ByteArray} (h : t.write path content = .ok u)
    (hp : place t.home path ≠ p) : SameAt p t u := by
  obtain ⟨q, x, hl, hdir, -, rfl⟩ := write_ok h
  exact sameAt_put hdir (locate_place hl ▸ hp) _

theorem sameAt_append {content : ByteArray} (h : t.append path content = .ok u)
    (hp : place t.home path ≠ p) : SameAt p t u := by
  obtain ⟨q, old, x, hf, rfl⟩ := append_ok h
  obtain ⟨hl, hq, -⟩ := find_eq_ok_iff.1 hf
  exact sameAt_put (by simp [hq]) (locate_place hl ▸ hp) _

end SameAt

end Conformance.FileTree
