import Conformance.FileTree
import Conformance.Proofs.Except
import Conformance.Proofs.Path
import Mathlib.Tactic.SplitIfs

/-!
# What operations on files leave behind

`Within t u` says that `u` holds all that `t` holds. A path that finds something in `t` finds the
same in `u` (`Within.find`), so making directories loses nothing (`within_makeDirectories`) and
removing them brings nothing in (`removeDirectory_within`). A file that was written or appended to
is found with its new bytes (`write_ok`, `append_ok`), and every other file as it was
(`find_put_of_ne`).
-/

namespace Conformance.FileTree

variable {t u v : FileTree} {path : String}

section Within

/-- `u` has the home of `t` and holds all that `t` holds. -/
structure Within (t u : FileTree) : Prop where
  home : t.home = u.home
  lookup : ∀ p e, t.lookup p = some e → u.lookup p = some e

theorem Within.refl (t : FileTree) : Within t t := ⟨rfl, fun _ _ h => h⟩

theorem Within.trans (h : Within t u) (h' : Within u v) : Within t v :=
  ⟨h.home.trans h'.home, fun p e he => h'.lookup p e (h.lookup p e he)⟩

/-- Following names needs directories only. -/
theorem follow_of_directories
    (h : ∀ p, t.lookup p = some .directory → u.lookup p = some .directory) :
    ∀ (names : List String) {p q : Place}, t.follow p names = .ok q → u.follow p names = .ok q
  | [], p, q, hf => by simpa [follow] using hf
  | name :: rest, p, q, hf => by
    unfold follow at hf ⊢
    rcases hp : t.lookup p with _ | (_ | _) <;> rw [hp] at hf
    · simp at hf
    · rw [h p hp]
      simp only [] at hf ⊢
      by_cases hn : name = ".."
      · rw [if_pos hn] at hf ⊢
        exact follow_of_directories h rest hf
      · rw [if_neg hn] at hf ⊢
        by_cases hl : 255 < name.utf8ByteSize
        · rw [if_pos hl] at hf
          simp at hf
        · rw [if_neg hl] at hf ⊢
          exact follow_of_directories h rest hf
    · simp at hf

theorem locate_of_directories (hh : t.home = u.home)
    (h : ∀ p, t.lookup p = some .directory → u.lookup p = some .directory) {p : Place}
    (hl : t.locate path = .ok p) : u.locate path = .ok p := by
  unfold locate at hl ⊢
  by_cases h0 : path.toList.contains '\x00' = true
  · rw [if_pos h0] at hl
    simp at hl
  rw [if_neg h0] at hl ⊢
  by_cases h1 : path = ""
  · rw [if_pos h1] at hl
    simp at hl
  rw [if_neg h1] at hl ⊢
  by_cases h2 : 4096 ≤ path.utf8ByteSize
  · rw [if_pos h2] at hl
    simp at hl
  rw [if_neg h2] at hl ⊢
  rw [← hh]
  exact follow_of_directories h _ hl

theorem Within.locate (h : Within t u) {p : Place} (hl : t.locate path = .ok p) :
    u.locate path = .ok p :=
  locate_of_directories h.home (fun p hp => h.lookup p _ hp) hl

theorem find_eq_ok_iff {p : Place} {e : Entry} :
    t.find path = .ok (p, e) ↔
      t.locate path = .ok p ∧ t.lookup p = some e ∧ (e = .directory ∨ ending path = .name) := by
  unfold find
  rcases hl : t.locate path with f | q
  · simp
  simp only [ok_bind, Except.ok.injEq]
  constructor
  · intro h
    rcases hq : t.lookup q with _ | (_ | ⟨content, x⟩) <;> rw [hq] at h
    · simp at h
    · cases h
      exact ⟨rfl, hq, .inl rfl⟩
    · simp only [] at h
      split_ifs at h with hn
      cases h
      exact ⟨rfl, hq, .inr hn⟩
  · rintro ⟨rfl, hq, hn⟩
    rw [hq]
    rcases e with _ | ⟨content, x⟩
    · rfl
    · rcases hn with hn | hn
      · cases hn
      · simp only [if_pos hn, pure_eq_ok]

/-- What a path finds is found in every tree that holds as much. -/
theorem Within.find (h : Within t u) {p : Place} {e : Entry} (hf : t.find path = .ok (p, e)) :
    u.find path = .ok (p, e) := by
  obtain ⟨hl, he, hn⟩ := find_eq_ok_iff.1 hf
  exact find_eq_ok_iff.2 ⟨h.locate hl, h.lookup _ _ he, hn⟩

/-- What the path finds in the first tree, it finds in the second. -/
def FoundIn (path : String) (t u : FileTree) : Prop :=
  ∀ p e, t.find path = .ok (p, e) → u.find path = .ok (p, e)

theorem FoundIn.refl (path : String) (t : FileTree) : FoundIn path t t := fun _ _ h => h

theorem FoundIn.trans (h : FoundIn path t u) (h' : FoundIn path u v) : FoundIn path t v :=
  fun p e hf => h' p e (h p e hf)

theorem Within.foundIn (h : Within t u) (path : String) : FoundIn path t u := fun _ _ => h.find

end Within

section Places

theorem follow_getLast? : ∀ (names : List String) {p q : Place} {name : String},
    t.follow p names = .ok q → names.getLast? = some name → name ≠ ".." → q.getLast? = some name
  | [], _, _, _, _, hn, _ => by simp at hn
  | first :: rest, p, q, name, h, hn, hup => by
    unfold follow at h
    rcases hp : t.lookup p with _ | (_ | _) <;> rw [hp] at h
    · simp at h
    · rcases rest with _ | ⟨second, rest⟩
      · simp only [List.getLast?_singleton, Option.some.injEq] at hn
        subst hn
        simp only [if_neg hup] at h
        split_ifs at h
        simp only [follow, Except.ok.injEq] at h
        rw [← h, List.getLast?_concat]
      · rw [List.getLast?_cons_cons] at hn
        simp only [] at h
        split_ifs at h
        · exact follow_getLast? (second :: rest) h hn hup
        · exact follow_getLast? (second :: rest) h hn hup
    · simp at h

/-- A path that ends in a character of a name leads to a place whose name ends in it. -/
theorem locate_getLast? {p : Place} {c : Char} (hl : t.locate path = .ok p)
    (hc : path.toList.getLast? = some c) (hslash : c ≠ '/') (hpoint : c ≠ '.') :
    ∃ name, p.getLast? = some name ∧ name.toList.getLast? = some c := by
  obtain ⟨w, hw, hwc⟩ := Path.getLast?_splitChars hc hslash
  obtain ⟨ws, hws⟩ := List.getLast?_eq_some_iff.1 hw
  have hname : ∀ s : String, s.toList.getLast? ≠ some c → String.ofList w ≠ s := by
    rintro s hs rfl
    exact hs (by simpa using hwc)
  have hkept : ((Path.split path).filter fun p => p ≠ "" && p ≠ ".").getLast?
      = some (String.ofList w) := by
    have h₁ := hname "" (by simp)
    have h₂ := hname "." (by simpa using Ne.symm hpoint)
    unfold Path.split
    rw [hws, List.map_append, List.filter_append, List.getLast?_append]
    simp [h₁, h₂]
  have hup := hname ".." (by simpa using Ne.symm hpoint)
  unfold locate at hl
  split_ifs at hl
  · exact ⟨String.ofList w, follow_getLast? _ hl hkept hup, by simpa using hwc⟩
  · exact ⟨String.ofList w, follow_getLast? _ hl hkept hup, by simpa using hwc⟩

end Places

section Put

theorem ne_nil_of_lookup {p : Place} (h : t.lookup p ≠ some .directory) : p ≠ [] := by
  rintro rfl
  exact h rfl

theorem lookup_put_self {p : Place} (h : t.lookup p ≠ some .directory) (e : Entry) :
    (t.put p e).lookup p = some e := by
  rw [lookup_put (ne_nil_of_lookup h), if_pos rfl]

theorem lookup_put_of_ne {p q : Place} (hp : p ≠ []) (h : p ≠ q) (e : Entry) :
    (t.put p e).lookup q = t.lookup q := by
  rw [lookup_put hp, if_neg h]

/-- A place without an entry can take one without loss. -/
theorem within_put {p : Place} (h : t.lookup p = none) (e : Entry) : Within t (t.put p e) := by
  have hp : t.lookup p ≠ some .directory := by simp [h]
  refine ⟨rfl, fun q f hq => ?_⟩
  have hne : p ≠ q := by
    rintro rfl
    simp [h] at hq
  rw [lookup_put_of_ne (ne_nil_of_lookup hp) hne, hq]

/-- Writing where no directory is leaves all directories where they are. -/
theorem locate_put {p q : Place} (h : t.lookup p ≠ some .directory) (e : Entry)
    (hl : t.locate path = .ok q) : (t.put p e).locate path = .ok q := by
  have hh : t.home = (t.put p e).home := rfl
  refine locate_of_directories hh (fun r hr => ?_) hl
  have hne : p ≠ r := by
    rintro rfl
    exact h hr
  rw [lookup_put_of_ne (ne_nil_of_lookup h) hne, hr]

/-- A path whose place was written finds what was written. -/
theorem find_put_self {p : Place} (hl : t.locate path = .ok p) (h : t.lookup p ≠ some .directory)
    (hn : ending path = .name) (content : ByteArray) (x : Bool) :
    (t.put p (.file content x)).find path = .ok (p, .file content x) :=
  find_eq_ok_iff.2 ⟨locate_put h _ hl, lookup_put_self h _, .inr hn⟩

/-- A path whose place was not written finds what it found. -/
theorem find_put_of_ne {p q : Place} {e f : Entry} (h : t.lookup p ≠ some .directory) (hne : p ≠ q)
    (hf : t.find path = .ok (q, f)) : (t.put p e).find path = .ok (q, f) := by
  obtain ⟨hl, hq, hn⟩ := find_eq_ok_iff.1 hf
  refine find_eq_ok_iff.2 ⟨locate_put h _ hl, ?_, hn⟩
  rw [lookup_put_of_ne (ne_nil_of_lookup h) hne, hq]

end Put

section Writing

theorem write_ok {content : ByteArray} (h : t.write path content = .ok u) :
    ∃ p x, t.locate path = .ok p ∧ t.lookup p ≠ some .directory ∧ ending path = .name
      ∧ u = t.put p (.file content x) := by
  unfold write target at h
  rcases hl : t.locate path with e | p <;> rw [hl] at h
  · simp at h
  rcases hp : t.lookup p with _ | (_ | ⟨old, x⟩) <;> rw [ok_bind, hp] at h
  · rcases he : ending path <;> simp [he] at h
    exact ⟨p, false, rfl, by simp [hp], rfl, h.symm⟩
  · simp at h
  · rcases he : ending path <;> simp [he] at h
    exact ⟨p, x, rfl, by simp [hp], rfl, h.symm⟩

/-- A file that was written is found with what was written. -/
theorem find_write {content : ByteArray} (h : t.write path content = .ok u) :
    ∃ p x, u.find path = .ok (p, .file content x) := by
  obtain ⟨p, x, hl, hp, hn, rfl⟩ := write_ok h
  exact ⟨p, x, find_put_self hl hp hn content x⟩

theorem append_ok {content : ByteArray} (h : t.append path content = .ok u) :
    ∃ p old x, t.find path = .ok (p, .file old x) ∧ u = t.put p (.file (old ++ content) x) := by
  unfold append at h
  obtain ⟨⟨p, _ | ⟨old, x⟩⟩, hf, h⟩ := bind_eq_ok_iff.1 h
  · simp at h
  · simp only [pure_eq_ok, Except.ok.injEq] at h
    exact ⟨p, old, x, hf, h.symm⟩

/-- A file that was appended to is found with its old bytes and the new ones behind them. -/
theorem find_append {content : ByteArray} (h : t.append path content = .ok u) :
    ∃ p old x, t.find path = .ok (p, .file old x)
      ∧ u.find path = .ok (p, .file (old ++ content) x) := by
  obtain ⟨p, old, x, hf, rfl⟩ := append_ok h
  obtain ⟨hl, hp, he⟩ := find_eq_ok_iff.1 hf
  refine ⟨p, old, x, hf, find_put_self hl (by simp [hp]) ?_ _ x⟩
  simpa using he

/-- A file that is found can be appended to. -/
theorem append_of_find {p : Place} {old : ByteArray} {x : Bool}
    (h : t.find path = .ok (p, .file old x)) (content : ByteArray) :
    t.append path content = .ok (t.put p (.file (old ++ content) x)) := by
  unfold append
  rw [h]
  rfl

/-- Where no file is found, nothing can be appended, and the error does not depend on the bytes. -/
theorem append_of_not_found (h : ∀ p old x, t.find path ≠ .ok (p, .file old x)) :
    ∃ e, ∀ content, t.append path content = .error e := by
  unfold append
  rcases hf : t.find path with e | ⟨p, _ | ⟨old, x⟩⟩
  · exact ⟨e, fun _ => rfl⟩
  · exact ⟨.isDirectory, fun _ => rfl⟩
  · exact absurd hf (h p old x)

theorem readText_of_find {p : Place} {text : String} {x : Bool}
    (h : t.find path = .ok (p, .file text.toUTF8 x)) : t.readText path = .ok text := by
  have hv : text.toUTF8.IsValidUTF8 := text.isValidUTF8
  unfold readText readBytes
  rw [h]
  simp only [ok_bind, pure_eq_ok, String.fromUTF8?, dif_pos hv]
  rfl

end Writing

section Directories

theorem within_makeDirectory (h : t.makeDirectory path = .ok u) : Within t u := by
  unfold makeDirectory at h
  obtain ⟨p, -, h⟩ := bind_eq_ok_iff.1 h
  rcases hp : t.lookup p with _ | (_ | _) <;> rw [hp] at h
  · simp only [] at h
    split_ifs at h
    simp only [pure_eq_ok, Except.ok.injEq] at h
    exact h ▸ within_put hp _
  · simp at h
  · simp at h

section Related

variable {R : FileTree → FileTree → Prop} (refl : ∀ t, R t t)
  (trans : ∀ {t u v}, R t u → R u v → R t v)
  (made : ∀ {t u path}, makeDirectory t path = .ok u → R t u)
include refl made

theorem related_ensureDirectory (t : FileTree) (path : String) :
    R t (t.ensureDirectory path).2 := by
  unfold ensureDirectory
  rcases h : t.makeDirectory path with e | u
  · exact refl t
  · exact made h

include trans

theorem related_makeBelow : ∀ (parents : List String) (t : FileTree) (path : String),
    R t (t.makeBelow path parents).2
  | [], t, path => related_ensureDirectory refl made t path
  | parent :: rest, t, path => by
    have ih := related_makeBelow rest t parent
    unfold makeBelow
    split
    · split
      · rename_i u hu
        rw [hu] at ih
        exact trans ih (related_ensureDirectory refl made u path)
      · exact ih
    · exact related_ensureDirectory refl made t path

/-- Making directories leads from a tree to a related one, as making a single one does. -/
theorem related_makeDirectories (t : FileTree) (path : String) :
    R t (t.makeDirectories path).2 := by
  unfold makeDirectories
  split_ifs
  · exact refl t
  · exact related_makeBelow refl trans made _ t path

end Related

theorem within_makeDirectories (t : FileTree) (path : String) :
    Within t (t.makeDirectories path).2 :=
  related_makeDirectories Within.refl Within.trans within_makeDirectory t path

/-- Leaving out whole places brings nothing in. -/
theorem filter_within (t : FileTree) (keep : Place → Bool) :
    Within { t with entries := t.entries.filter fun e => keep e.1 } t := by
  refine ⟨rfl, fun p e hp => ?_⟩
  unfold lookup at hp ⊢
  split_ifs at hp ⊢ with h0
  · exact hp
  · rw [List.find?_filter] at hp
    by_cases hk : keep p = true
    · have hsame : (fun f : Place × Entry => keep f.1 && decide (f.1 = p))
          = fun f => decide (f.1 = p) := by
        funext f
        by_cases hf : f.1 = p <;> simp [hf, hk]
      rw [← hp]
      simp only [Bool.decide_and, Bool.decide_eq_true, hsame]
    · have hnone : t.entries.find? (fun f => keep f.1 && decide (f.1 = p)) = none := by
        rw [List.find?_eq_none]
        rintro f - hf
        simp only [Bool.and_eq_true, decide_eq_true_eq] at hf
        exact hk (hf.2 ▸ hf.1)
      simp [hnone] at hp

/-- Removing a directory brings nothing in. -/
theorem removeDirectory_within (h : t.removeDirectory path = .ok u) : Within u t := by
  unfold removeDirectory at h
  obtain ⟨⟨p, _ | _⟩, -, h⟩ := bind_eq_ok_iff.1 h
  · simp only [pure_eq_ok, Except.ok.injEq] at h
    subst h
    split_ifs
    · exact filter_within t fun q => !p.isPrefixOf q
    · exact filter_within t fun q => q = p || !p.isPrefixOf q
  · simp at h

end Directories

end Conformance.FileTree
