import Conformance.Csv

/-!
# Reading back what records write

What `parseFrom` does with one character, and from it what it does with the characters of a field:
those of a bare field and those between quotes both add exactly themselves to the text read so far
(`parseFrom_bare`, `parseFrom_doubleQuotes`).
-/

namespace Conformance.Csv

/-- The text of records, one after the other. -/
def text (records : List (List String)) : String := String.join (records.map line)

theorem text_cons (r : List String) (records : List (List String)) :
    text (r :: records) = line r ++ text records := by
  simp [text]

theorem text_concat (as : List (List String)) (r : List String) :
    text (as ++ [r]) = text as ++ line r := by
  simp [text]

/-- The record that some fields and a text make up without an end: none, if there is neither. -/
def unended (fields : List (List Char)) (text : List Char) : Records :=
  if fields = [] ∧ text = [] then [] else [fields ++ [text]]

section Characters

attribute [local simp] parseFrom

variable (done : List Char) (fields : List (List Char)) {rest : List Char}

theorem parseFrom_nil (quoted : Bool) :
    parseFrom quoted done fields [] = unended fields done.reverse := by
  simp [unended, and_comm]

theorem parseFrom_comma :
    parseFrom false done fields (',' :: rest)
      = parseFrom false [] (fields ++ [done.reverse]) rest := by
  simp

theorem parseFrom_newline :
    parseFrom false done fields ('\n' :: rest)
      = (fields ++ [done.reverse]) :: parseFrom false [] [] rest := by
  simp

theorem parseFrom_return :
    parseFrom false done fields ('\r' :: '\n' :: rest)
      = parseFrom false done fields ('\n' :: rest) := by
  simp

/-- A character that needs no quotes stands for itself. -/
theorem parseFrom_plain {c : Char} (h : needsQuotes c = false) :
    parseFrom false done fields (c :: rest) = parseFrom false (c :: done) fields rest := by
  simp only [needsQuotes, Bool.or_eq_false_iff, decide_eq_false_iff_not] at h
  obtain ⟨⟨⟨hcomma, hquote⟩, hfeed⟩, hreturn⟩ := h
  rw [parseFrom.eq_4 _ _ _ _ _ hquote]
  simp [hcomma, hfeed, hreturn]

theorem parseFrom_open :
    parseFrom false done fields ('"' :: rest) = parseFrom true done fields rest := by
  rcases rest with _ | ⟨c, rest⟩
  · simp
  · by_cases hc : c = '"'
    · subst hc
      rw [parseFrom.eq_2]
      rfl
    · rw [parseFrom.eq_3 _ _ _ _ (by simp [hc])]
      rfl

/-- Between quotes every other character stands for itself. -/
theorem parseFrom_inside {c : Char} (h : c ≠ '"') :
    parseFrom true done fields (c :: rest) = parseFrom true (c :: done) fields rest := by
  rw [parseFrom.eq_4 _ _ _ _ _ h]
  rfl

theorem parseFrom_doubled :
    parseFrom true done fields ('"' :: '"' :: rest) = parseFrom true ('"' :: done) fields rest := by
  rw [parseFrom.eq_2]
  rfl

theorem parseFrom_close (h : rest.head? ≠ some '"') :
    parseFrom true done fields ('"' :: rest) = parseFrom false done fields rest := by
  rw [parseFrom.eq_3 _ _ _ _ (by rintro _ rfl; exact h rfl)]
  rfl

end Characters

section Fields

variable {fields : List (List Char)} {rest : List Char}

theorem parseFrom_bare : ∀ {s : List Char} (done : List Char), (∀ c ∈ s, needsQuotes c = false) →
    parseFrom false done fields (s ++ rest) = parseFrom false (s.reverse ++ done) fields rest
  | [], _, _ => rfl
  | c :: s, done, h => by
    rw [List.cons_append, parseFrom_plain _ _ (h c (by simp)),
      parseFrom_bare (c :: done) fun d hd => h d (by simp [hd])]
    simp

theorem parseFrom_doubleQuotes : ∀ (s done : List Char),
    parseFrom true done fields (doubleQuotes s ++ rest)
      = parseFrom true (s.reverse ++ done) fields rest
  | [], _ => rfl
  | c :: s, done => by
    have ih := parseFrom_doubleQuotes s (c :: done)
    by_cases hc : c = '"'
    · subst hc
      have hd : doubleQuotes ('"' :: s) = '"' :: '"' :: doubleQuotes s := rfl
      rw [hd, List.cons_append, List.cons_append, parseFrom_doubled, ih]
      simp
    · have hd : doubleQuotes (c :: s) = c :: doubleQuotes s := by simp [doubleQuotes, hc]
      rw [hd, List.cons_append, parseFrom_inside _ _ hc, ih]
      simp

end Fields

end Conformance.Csv
