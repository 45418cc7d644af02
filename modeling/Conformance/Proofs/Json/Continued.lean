import Conformance.Proofs.Json.Reader
import Mathlib.Data.List.TakeWhile

/-!
# Reading a text that goes on

A reader sees no further than it reads. Words, strings, arrays and objects end with a character of
their own, so more text behind them makes no difference (`Closed`). A number ends only where a
character follows that cannot belong to it: more text makes no difference if some was left before
(`Steady`). In an array or object something is left behind every value, so the brackets close a
value whatever follows them (`readValue_append_of_open`), and the beginning of a document in
brackets is none (`read_truncated`).
-/

namespace Conformance.Json

/-- More text behind what the reader leaves makes no difference. -/
def Closed {α : Type} (read : List Char → Except Fault (α × List Char)) : Prop :=
  ∀ ⦃s a rest⦄, read s = .ok (a, rest) → ∀ more, read (s ++ more) = .ok (a, rest ++ more)

/-- More text makes no difference where the reader leaves some. -/
def Steady {α : Type} (read : List Char → Except Fault (α × List Char)) : Prop :=
  ∀ ⦃s a rest⦄, read s = .ok (a, rest) → rest ≠ [] →
    ∀ more, read (s ++ more) = .ok (a, rest ++ more)

variable {s rest : List Char}

section Digits

theorem dropDigits_append (more : List Char) : ∀ {s : List Char} {dropped : Nat},
    (dropDigits dropped s).2 ≠ [] →
      dropDigits dropped (s ++ more)
        = ((dropDigits dropped s).1, (dropDigits dropped s).2 ++ more)
  | [], _, h => absurd rfl h
  | c :: s, dropped, h => by
    simp only [dropDigits, List.cons_append] at h ⊢
    split_ifs with hc
    · rw [if_pos hc] at h
      exact dropDigits_append more h
    · rfl

theorem readDigits_append (more : List Char) {bound : Nat} : ∀ {s : List Char} {value used : Nat},
    (readDigits bound value used s).rest ≠ [] →
      readDigits bound value used (s ++ more)
        = { readDigits bound value used s with
            rest := (readDigits bound value used s).rest ++ more }
  | [], _, _, h => absurd rfl h
  | c :: s, value, used, h => by
    simp only [readDigits, List.cons_append] at h ⊢
    rcases hd : digit? c with _ | d <;> simp only [hd] at h ⊢
    · rfl
    · split_ifs with hle
      · rw [if_pos hle] at h
        exact readDigits_append more h
      · rw [if_neg hle] at h
        rw [dropDigits_append more h]

end Digits

section Numbers

variable {negative : Bool} {value dropped : Nat} {start exponent : Int} {v : Json}

theorem double?_eq_ok_iff :
    double? negative value exponent s = .ok (v, rest) ↔ rest = s
      ∧ ∃ f, scale value.toUInt64.toFloat exponent 8 = some f
        ∧ v = .double (bitsOf (if negative then -f else f)) := by
  unfold double?
  rcases scale value.toUInt64.toFloat exponent 8 with _ | f
  · simp
  · simp [eq_comm, and_comm]

theorem closed_double? : Closed (double? negative value exponent) := by
  intro s v rest h more
  obtain ⟨rfl, hf⟩ := double?_eq_ok_iff.1 h
  exact double?_eq_ok_iff.2 ⟨rfl, hf⟩

/-- Takes the sign of an exponent: whether it leads down, and what is left. -/
def exponentSign : List Char → Bool × List Char
  | '+' :: s => (false, s)
  | '-' :: s => (true, s)
  | s => (false, s)

/-- Reads an exponent behind its sign. -/
def exponentDigits (negative : Bool) (value : Nat) (start : Int) (down : Bool) (s : List Char) :
    Except Fault (Json × List Char) :=
  match s with
  | [] => .error ⟨.endInValue, [], 0⟩
  | c :: _ =>
    if (digit? c).isNone then .error ⟨.invalidNumber, s, 1⟩
    else
      let e := readDigits maxExponent 0 0 s
      if e.dropped = 0 then
        double? negative value (if down then start - e.value else start + e.value) e.rest
      else if value ≠ 0 && !down then .error ⟨.numberOutOfRange, s.drop (e.used + 1), 0⟩
      else .ok (.double (bitsOf 0.0), e.rest)

theorem exponentPart_eq (s : List Char) : exponentPart negative value start s
    = exponentDigits negative value start (exponentSign s).1 (exponentSign s).2 := rfl

theorem exponentSign_append (h : s ≠ []) (more : List Char) :
    exponentSign (s ++ more) = ((exponentSign s).1, (exponentSign s).2 ++ more) := by
  obtain ⟨c, s, rfl⟩ := List.exists_cons_of_ne_nil h
  rw [List.cons_append]
  by_cases hplus : c = '+'
  · rw [hplus]
    rfl
  by_cases hminus : c = '-'
  · rw [hminus]
    rfl
  simp [exponentSign, hplus, hminus]

theorem steady_exponentDigits {down : Bool} :
    Steady (exponentDigits negative value start down) := by
  intro s v rest h hrest more
  rcases s with _ | ⟨c, s⟩
  · cases h
  have hdigits := @readDigits_append more maxExponent (c :: s) 0 0
  simp only [exponentDigits, List.cons_append] at h hdigits ⊢
  generalize readDigits maxExponent 0 0 (c :: s) = e at h hdigits
  by_cases hc : (digit? c).isNone = true
  · rw [if_pos hc] at h
    cases h
  rw [if_neg hc] at h ⊢
  by_cases hdropped : e.dropped = 0
  · rw [if_pos hdropped] at h
    obtain ⟨rfl, -⟩ := double?_eq_ok_iff.1 h
    rw [hdigits hrest, if_pos hdropped]
    exact closed_double? h more
  · rw [if_neg hdropped] at h
    split_ifs at h with hrange
    cases h
    rw [hdigits hrest, if_neg hdropped, if_neg hrange]

theorem steady_exponentPart : Steady (exponentPart negative value start) := by
  intro s v rest h hrest more
  rcases s with _ | ⟨c, s⟩
  · cases h
  rw [exponentPart_eq] at h ⊢
  rw [exponentSign_append (List.cons_ne_nil c s)]
  exact steady_exponentDigits h hrest more

theorem steady_fractionPart : Steady (fractionPart negative value start) := by
  intro s v rest h hrest more
  have hdigits := @readDigits_append more maxWord s value 0
  unfold fractionPart at h ⊢
  generalize readDigits maxWord value 0 s = d at h hdigits
  simp only at h ⊢
  split_ifs at h with hnone
  · rcases s with _ | ⟨c, s⟩ <;> cases h
  rcases hleft : d.rest with _ | ⟨c, left⟩ <;> rw [hleft] at h hdigits
  · obtain ⟨rfl, -⟩ := double?_eq_ok_iff.1 h
    exact absurd rfl hrest
  rw [hdigits (List.cons_ne_nil c left)]
  simp only [if_neg hnone, List.cons_append]
  by_cases hexponent : c = 'e' ∨ c = 'E'
  · rcases hexponent with rfl | rfl <;> exact steady_exponentPart h hrest more
  · rw [not_or] at hexponent
    simp only [List.cons.injEq, hexponent, false_and, imp_self, implies_true] at h ⊢
    exact closed_double? h more

/-- What a whole part without point and exponent comes to. -/
def wholeNumber (negative : Bool) (value dropped : Nat) (s : List Char) :
    Except Fault (Json × List Char) :=
  if dropped ≠ 0 then double? negative value dropped s
  else if !negative then .ok (.int value, s)
  else if value = 0 || Int64.minValue.toInt.natAbs < value then double? true value 0 s
  else .ok (.int (-value), s)

theorem afterWhole_of_ne {c : Char} (hpoint : c ≠ '.') (hlower : c ≠ 'e') (hupper : c ≠ 'E') :
    afterWhole negative value dropped (c :: s) = wholeNumber negative value dropped (c :: s) := by
  simp [afterWhole, wholeNumber, hpoint, hlower, hupper]

theorem wholeNumber_leaves (h : wholeNumber negative value dropped s = .ok (v, rest)) :
    rest = s := by
  unfold wholeNumber at h
  split_ifs at h
  · exact (double?_eq_ok_iff.1 h).1
  · cases h
    rfl
  · exact (double?_eq_ok_iff.1 h).1
  · cases h
    rfl

theorem closed_wholeNumber : Closed (wholeNumber negative value dropped) := by
  intro s v rest h more
  unfold wholeNumber at h ⊢
  split_ifs at h ⊢
  · exact closed_double? h more
  · cases h
    rfl
  · exact closed_double? h more
  · cases h
    rfl

theorem steady_afterWhole : Steady (afterWhole negative value dropped) := by
  intro s v rest h hrest more
  rcases s with _ | ⟨c, s⟩
  · exact absurd (wholeNumber_leaves h) hrest
  by_cases hpoint : c = '.'
  · subst hpoint
    exact steady_fractionPart h hrest more
  by_cases hlower : c = 'e'
  · subst hlower
    exact steady_exponentPart h hrest more
  by_cases hupper : c = 'E'
  · subst hupper
    exact steady_exponentPart h hrest more
  rw [afterWhole_of_ne hpoint hlower hupper] at h
  rw [List.cons_append, afterWhole_of_ne hpoint hlower hupper]
  exact closed_wholeNumber h more

theorem steady_readNumber : Steady (readNumber negative) := by
  intro s v rest h hrest more
  rcases s with _ | ⟨c, s⟩
  · cases h
  by_cases hzero : c = '0'
  · subst hzero
    rcases s with _ | ⟨d, s⟩
    · have hwhole : wholeNumber negative 0 0 [] = .ok (v, rest) := h
      exact absurd (wholeNumber_leaves hwhole) hrest
    simp only [readNumber, List.cons_append] at h ⊢
    split_ifs at h ⊢
    exact steady_afterWhole h hrest more
  · have hdigits := @readDigits_append more maxWord (c :: s) 0 0
    rw [List.cons_append] at hdigits ⊢
    rw [readNumber.eq_4 _ _ _ hzero] at h ⊢
    generalize readDigits maxWord 0 0 (c :: s) = d at h hdigits
    split_ifs at h ⊢
    have hleft : d.rest ≠ [] := by
      intro hnil
      simp only [hnil] at h
      exact hrest (wholeNumber_leaves h)
    rw [hdigits hleft]
    exact steady_afterWhole h hrest more

end Numbers

section Strings

/-- The progress in a text that goes on with more. -/
def Progress.append (more : List Char) : Progress → Progress
  | .unit high start value left => .unit high (start ++ more) value left
  | p => p

theorem consChar_append {c : Char} {r r' : Except Fault (List Char × List Char)}
    {more cs : List Char} (hr : ∀ {cs}, r = .ok (cs, rest) → r' = .ok (cs, rest ++ more))
    (h : consChar c r = .ok (cs, rest)) : consChar c r' = .ok (cs, rest ++ more) := by
  rcases r with e | ⟨ds, left⟩
  · cases h
  · cases h
    rw [hr rfl]
    rfl

/-- A string ends with its quote, whatever follows. -/
theorem stringBody_append {more : List Char} : ∀ {s : List Char} {p : Progress} {cs : List Char},
    stringBody p s = .ok (cs, rest) →
      stringBody (p.append more) (s ++ more) = .ok (cs, rest ++ more)
  | [], p, cs, h => by cases p <;> cases h
  | c :: s, .plain, cs, h => by
    simp only [stringBody, Progress.append, List.cons_append] at h ⊢
    split_ifs at h ⊢
    · cases h
      rfl
    · exact stringBody_append h
    · exact consChar_append stringBody_append h
  | c :: s, .escape, cs, h => by
    simp only [stringBody, Progress.append, List.cons_append] at h ⊢
    split_ifs at h ⊢
    · exact stringBody_append h
    · rcases hd : shortEscape? c with _ | d <;> simp only [hd, reduceCtorEq] at h ⊢
      exact consChar_append stringBody_append h
  | c :: s, .unit high start value left, cs, h => by
    simp only [stringBody, Progress.append, List.cons_append] at h ⊢
    rcases hd : hexValue? c with _ | d <;> simp only [hd, reduceCtorEq] at h ⊢
    split_ifs at h ⊢
    · rcases hunit : finishUnit high (value * 16 + d) with cause | d | unit <;>
        simp only [hunit, reduceCtorEq] at h ⊢
      · exact consChar_append stringBody_append h
      · exact stringBody_append h
    · exact stringBody_append h
  | c :: s, .secondSlash high, cs, h => by
    simp only [stringBody, Progress.append, List.cons_append] at h ⊢
    split_ifs at h ⊢
    exact stringBody_append h
  | c :: s, .secondLetter high, cs, h => by
    simp only [stringBody, Progress.append, List.cons_append] at h ⊢
    split_ifs at h ⊢
    exact stringBody_append h

theorem map_eq_ok_iff {α β : Type} {x : Except Fault (α × List Char)} {f : α → β} {b : β} :
    (x.map fun (a, s) => (f a, s)) = .ok (b, rest) ↔ ∃ a, x = .ok (a, rest) ∧ f a = b := by
  rcases x with e | ⟨a, left⟩
  · simp [Except.map]
  · simp [Except.map, and_comm]

theorem closed_readString : Closed readString := by
  intro s k rest h more
  obtain ⟨cs, hbody, hk⟩ := map_eq_ok_iff.1 h
  exact map_eq_ok_iff.2 ⟨cs, stringBody_append hbody, hk⟩

theorem closed_readWord (v : Json) : ∀ word : List Char, Closed (readWord v word)
  | [], s, _, _, h, more => by
    cases h
    rfl
  | c :: word, [], _, _, h, more => by cases h
  | c :: word, d :: s, _, _, h, more => by
    simp only [readWord, List.cons_append] at h ⊢
    split_ifs at h ⊢
    exact closed_readWord v word h more

end Strings

section Brackets

variable {item : Reader} {fuel : Nat}

theorem skipSpace_append {c : Char} {q : List Char} (h : skipSpace s = c :: q)
    (more : List Char) : skipSpace (s ++ more) = c :: (q ++ more) := by
  unfold skipSpace at h ⊢
  rw [List.dropWhile_append, h]
  rfl

theorem ne_nil_of_moreItems {vs : List Json} (h : moreItems item fuel s = .ok (vs, rest)) :
    s ≠ [] := by
  rintro rfl
  rcases fuel with _ | fuel <;> cases h

theorem ne_nil_of_moreMembers {ms : List (String × Json)}
    (h : moreMembers item fuel s = .ok (ms, rest)) : s ≠ [] := by
  rintro rfl
  rcases fuel with _ | fuel <;> cases h

theorem moreItems_append (hitem : Steady item) (more : List Char) : ∀ {fuel fuel' : Nat}
    {s : List Char} {vs : List Json}, moreItems item fuel s = .ok (vs, rest) → fuel ≤ fuel' →
      moreItems item fuel' (s ++ more) = .ok (vs, rest ++ more)
  | 0, _, _, _, h, _ => by cases h
  | fuel + 1, 0, _, _, _, hle => absurd hle (Nat.not_succ_le_zero fuel)
  | fuel + 1, fuel' + 1, s, vs, h, hle => by
    rcases moreItems_eq_ok_iff.1 h with ⟨hs, rfl⟩ | ⟨r, c, q, v, t, vs, hs, hr, hc, hv, hvs, rfl⟩
    · exact moreItems_eq_ok_iff.2 (.inl ⟨skipSpace_append hs more, rfl⟩)
    · have hv' := hitem hv (ne_nil_of_moreItems hvs) more
      have hvs' := moreItems_append hitem more hvs (Nat.le_of_succ_le_succ hle)
      exact moreItems_eq_ok_iff.2 (.inr ⟨_, c, _, v, _, vs, skipSpace_append hs more,
        skipSpace_append hr more, hc, hv', hvs', rfl⟩)

theorem closed_readItems (hitem : Steady item) : Closed (readItems item) := by
  intro s vs rest h more
  rcases readItems_eq_ok_iff.1 h with ⟨hs, rfl⟩ | ⟨c, q, v, t, vs, hs, hc, hv, hvs, rfl⟩
  · exact readItems_eq_ok_iff.2 (.inl ⟨skipSpace_append hs more, rfl⟩)
  · have hv' := hitem hv (ne_nil_of_moreItems hvs) more
    have hlen : t.length + 1 ≤ (t ++ more).length + 1 := by simp
    have hvs' := moreItems_append hitem more hvs hlen
    exact readItems_eq_ok_iff.2 (.inr ⟨c, _, v, _, vs, skipSpace_append hs more, hc, hv', hvs',
      rfl⟩)

theorem steady_readMember (hitem : Steady item) : Steady (readMember item) := by
  intro s m rest h hrest more
  obtain ⟨t, q, hk, ht, hv⟩ := readMember_eq_ok_iff.1 h
  exact readMember_eq_ok_iff.2 ⟨_, _, closed_readString hk more, skipSpace_append ht more,
    hitem hv hrest more⟩

theorem moreMembers_append (hitem : Steady item) (more : List Char) : ∀ {fuel fuel' : Nat}
    {s : List Char} {ms : List (String × Json)},
    moreMembers item fuel s = .ok (ms, rest) → fuel ≤ fuel' →
      moreMembers item fuel' (s ++ more) = .ok (ms, rest ++ more)
  | 0, _, _, _, h, _ => by cases h
  | fuel + 1, 0, _, _, _, hle => absurd hle (Nat.not_succ_le_zero fuel)
  | fuel + 1, fuel' + 1, s, ms, h, hle => by
    rcases moreMembers_eq_ok_iff.1 h with ⟨hs, rfl⟩ | ⟨r, q, m, t, ms, hs, hr, hm, hms, rfl⟩
    · exact moreMembers_eq_ok_iff.2 (.inl ⟨skipSpace_append hs more, rfl⟩)
    · have hm' := steady_readMember hitem hm (ne_nil_of_moreMembers hms) more
      have hms' := moreMembers_append hitem more hms (Nat.le_of_succ_le_succ hle)
      exact moreMembers_eq_ok_iff.2 (.inr ⟨_, _, m, _, ms, skipSpace_append hs more,
        skipSpace_append hr more, hm', hms', rfl⟩)

theorem closed_readMembers (hitem : Steady item) : Closed (readMembers item) := by
  intro s ms rest h more
  rcases readMembers_eq_ok_iff.1 h with ⟨hs, rfl⟩ | ⟨q, m, t, ms, hs, hm, hms, rfl⟩
  · exact readMembers_eq_ok_iff.2 (.inl ⟨skipSpace_append hs more, rfl⟩)
  · have hm' := steady_readMember hitem hm (ne_nil_of_moreMembers hms) more
    have hlen : t.length + 1 ≤ (t ++ more).length + 1 := by simp
    have hms' := moreMembers_append hitem more hms hlen
    exact readMembers_eq_ok_iff.2 (.inr ⟨_, m, _, ms, skipSpace_append hs more, hm', hms', rfl⟩)

end Brackets

section Values

variable {depth : Nat} {q more : List Char} {c : Char} {v : Json}

/-- Too deep down, no array or object is read. -/
theorem readValue_of_shallow (hs : skipSpace s = c :: q) (hc : c = '[' ∨ c = '\x7b')
    (h : readValue depth s = .ok (v, rest)) : ∃ d, depth = d + 2 := by
  rcases depth with _ | _ | d
  · rw [readValue, hs] at h
    rcases hc with rfl | rfl <;> cases h
  · rw [readValue, hs] at h
    rcases hc with rfl | rfl <;> cases h
  · exact ⟨d, rfl⟩

/-- An array or object reads the same whatever follows it. -/
theorem readValue_append_of_open (hitem : ∀ d < depth, Steady (readValue d))
    (hs : skipSpace s = c :: q) (hc : c = '[' ∨ c = '\x7b')
    (h : readValue depth s = .ok (v, rest)) :
    readValue depth (s ++ more) = .ok (v, rest ++ more) := by
  obtain ⟨d, rfl⟩ := readValue_of_shallow hs hc h
  have hd := hitem (d + 1) (Nat.lt_succ_self _)
  have hs' := skipSpace_append hs more
  rcases hc with rfl | rfl
  · rw [readValue_bracket _ hs] at h
    rw [readValue_bracket _ hs']
    obtain ⟨vs, hvs, hv⟩ := map_eq_ok_iff.1 h
    exact map_eq_ok_iff.2 ⟨vs, closed_readItems hd hvs more, hv⟩
  · rw [readValue_brace _ hs] at h
    rw [readValue_brace _ hs']
    obtain ⟨ms, hms, hv⟩ := map_eq_ok_iff.1 h
    exact map_eq_ok_iff.2 ⟨ms, closed_readMembers hd hms more, hv⟩

theorem readValue_append_of_ne (hs : skipSpace s = c :: q) (hbracket : c ≠ '[')
    (hbrace : c ≠ '\x7b') (h : readValue depth s = .ok (v, rest)) (hrest : rest ≠ []) :
    readValue depth (s ++ more) = .ok (v, rest ++ more) := by
  have hs' := skipSpace_append hs more
  by_cases hdigit : (digit? c).isSome = true
  · rw [readValue_digit _ hs hdigit] at h
    rw [readValue_digit _ hs' hdigit]
    exact steady_readNumber h hrest more
  rw [readValue, hs] at h
  rw [readValue, hs']
  split at h <;> rename_i heq <;> cases heq
  case h_2 | h_3 | h_4 => exact closed_readWord _ _ h more
  case h_5 =>
    obtain ⟨k, hk, hv⟩ := map_eq_ok_iff.1 h
    exact map_eq_ok_iff.2 ⟨k, closed_readString hk more, hv⟩
  case h_6 => exact steady_readNumber h hrest more
  case h_7 => exact absurd rfl hbracket
  case h_8 => exact absurd rfl hbrace
  case h_9 =>
    rw [if_neg hdigit] at h
    cases h

theorem steady_readValue (depth : Nat) : Steady (readValue depth) := by
  induction depth using Nat.strong_induction_on with
  | _ depth ih =>
    intro s v rest h hrest more
    rcases hs : skipSpace s with _ | ⟨c, q⟩
    · rw [readValue, hs] at h
      cases h
    by_cases hc : c = '[' ∨ c = '\x7b'
    · exact readValue_append_of_open ih hs hc h
    · rw [not_or] at hc
      exact readValue_append_of_ne hs hc.1 hc.2 h hrest

theorem read_eq_ok_iff {text : String} :
    read text = .ok v
      ↔ ∃ rest, readValue depthBound text.toList = .ok (v, rest) ∧ skipSpace rest = [] := by
  rw [read, readChars]
  rcases readValue depthBound text.toList with e | ⟨w, rest⟩
  · simp
  simp only [ok_bind, Except.ok.injEq, Prod.mk.injEq]
  rcases hrest : skipSpace rest with _ | ⟨c, q⟩ <;> simp [hrest]

/-- A document in brackets of which a closing bracket is cut off is none. -/
theorem read_truncated {t p : String} {a : List Char} (ht : read t = .ok v)
    (hopen : t.toList = a ++ c :: q) (ha : Blank a) (hc : c = '[' ∨ c = '\x7b')
    (hcut : t.toList = p.toList ++ rest) (hclose : ∃ d ∈ rest, d = ']' ∨ d = '\x7d') :
    ∃ f, read p = .error f := by
  rcases hp : read p with f | w
  · exact ⟨f, rfl⟩
  obtain ⟨left, hread, hleft⟩ := read_eq_ok_iff.1 ht
  obtain ⟨left', hread', -⟩ := read_eq_ok_iff.1 hp
  have hspace : isSpace c = false := by rcases hc with rfl | rfl <;> decide
  have hstart : skipSpace t.toList = c :: q := by rw [hopen, skipSpace_blank_cons ha hspace]
  -- the beginning has the same bracket in front
  obtain ⟨q', hs⟩ : ∃ q', skipSpace p.toList = c :: q' := by
    rcases hs : skipSpace p.toList with _ | ⟨d, q'⟩
    · rw [readValue, hs] at hread'
      cases hread'
    · have hs' := skipSpace_append hs rest
      rw [← hcut, hstart] at hs'
      cases hs'
      exact ⟨q', rfl⟩
  have hlonger : readValue depthBound (p.toList ++ rest) = .ok (w, left' ++ rest) :=
    readValue_append_of_open (fun d _ => steady_readValue d) hs hc hread'
  rw [← hcut, hread] at hlonger
  cases hlonger
  -- so the closing bracket would have to be blank
  obtain ⟨d, hd, hbracket⟩ := hclose
  have hblank := List.dropWhile_eq_nil_iff.1 hleft d (List.mem_append_right _ hd)
  rcases hbracket with rfl | rfl <;> exact absurd hblank (by decide)

end Values

end Conformance.Json
