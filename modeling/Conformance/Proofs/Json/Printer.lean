import Conformance.Json.Printer
import Conformance.Proofs.Json.Reader

/-!
# Printed documents read back

What the printer writes is a text of the grammar: every escape writes its character
(`charText_escapeChar`), and a break of lines is nothing but blanks, so items and members between
brackets stay what they are (`linesText`). A document without doubles, whose integers fit,
is therefore read back from its lines as the tree that it was (`read_pretty`).
-/

namespace Conformance.Json

section Characters

theorem hexDigit_eq_digitChar {n : Nat} (h : n < 16) : Text.hexDigit n = n.digitChar := by
  interval_cases n <;> rfl

/-- The four digits that are written for a control character are those of its code unit. -/
theorem unitText_control {n : Nat} (h : n < 0x20) :
    UnitText n ['0', '0', Text.hexDigit (n / 16), Text.hexDigit (n % 16)] := by
  have hzero : HexDigit 0 '0' := ⟨by decide, .inl rfl⟩
  have hhigh : HexDigit (n / 16) (Text.hexDigit (n / 16)) :=
    ⟨by omega, .inl (hexDigit_eq_digitChar (by omega))⟩
  have hlow : HexDigit (n % 16) (Text.hexDigit (n % 16)) :=
    ⟨by omega, .inl (hexDigit_eq_digitChar (by omega))⟩
  have hn : ((0 * 16 + 0) * 16 + n / 16) * 16 + n % 16 = n := by omega
  have hunit := UnitText.digits hzero hzero hhigh hlow
  rwa [hn] at hunit

theorem charText_escapeChar (c : Char) : CharText c (escapeChar c) := by
  unfold escapeChar
  split_ifs with hquote hslash hback hform hline hreturn htab hcontrol
  · subst hquote
    exact .short (by simp [shortEscapes])
  · subst hslash
    exact .short (by simp [shortEscapes])
  · subst hback
    exact .short (by simp [shortEscapes])
  · subst hform
    exact .short (by simp [shortEscapes])
  · subst hline
    exact .short (by simp [shortEscapes])
  · subst hreturn
    exact .short (by simp [shortEscapes])
  · subst htab
    exact .short (by simp [shortEscapes])
  · exact .unit (unitText_control hcontrol)
  · exact .plain hquote hslash (Nat.not_lt.1 hcontrol)

theorem charsText_flatMap : ∀ cs : List Char, CharsText cs (cs.flatMap escapeChar)
  | [] => .nil
  | c :: cs => .cons (charText_escapeChar c) (charsText_flatMap cs)

theorem stringText_printString (s : String) : StringText s (printString s) :=
  .quoted (charsText_flatMap s.toList)

end Characters

section Lines

theorem blank_newline (level : Nat) : Blank (newline level) := by
  intro c hc
  unfold newline at hc
  rcases List.mem_cons.1 hc with rfl | hc
  · simp
  · simp [List.eq_of_mem_replicate hc]

variable {α : Type} {element piece : α → List Char → Prop} {list : List α → List Char → Prop}

/-- Pieces on lines of their own write a list, if each piece writes its element in whatever blanks
it stands. -/
theorem linesText (one : ∀ {x s}, element x s → list [x] s)
    (cons : ∀ {x rest s t}, element x s → list rest t → list (x :: rest) (s ++ ',' :: t))
    (padded : ∀ {x a p b}, piece x p → Blank a → Blank b → element x (a ++ (p ++ b)))
    {a b : List Char} (ha : Blank a) (hb : Blank b) :
    ∀ {xs : List α} {ps : List (List Char)} {x : α} {p : List Char}, piece x p →
      List.Forall₂ piece xs ps →
        list (x :: xs) (a ++ p ++ ps.flatMap (fun q => ',' :: a ++ q) ++ b)
  | _, _, _, _, hp, .nil => by simpa using one (padded hp ha hb)
  | _, _, _, _, hp, .cons hq hrest => by
    have hhead := padded hp ha blank_nil
    have ih := linesText one cons padded ha hb hq hrest
    simpa using cons hhead ih

end Lines

section Values

/-- A text writes a key and its value on one line. -/
def MemberPiece (m : String × Json) (p : List Char) : Prop :=
  ∃ s, p = printString m.1 ++ [':', ' '] ++ s ∧ Writes m.2 s

theorem MemberPiece.memberText {m : String × Json} {p a b : List Char} (h : MemberPiece m p)
    (ha : Blank a) (hb : Blank b) : MemberText m (a ++ (p ++ b)) := by
  obtain ⟨s, rfl, hs⟩ := h
  have hspace : Blank [' '] := by simp [Blank]
  have hvalue := Padded.blanks hspace hs hb
  simpa using MemberText.colon ha (stringText_printString m.1) blank_nil hvalue

theorem writes_array (level : Nat) : ∀ {items : List Json} {ps : List (List Char)},
    List.Forall₂ Writes items ps → Writes (.array items) (enclose '[' ']' level ps)
  | _, _, .nil => .emptyArray blank_nil
  | _, _, .cons h hrest =>
    .array (linesText .one .cons (fun hp ha hb => .blanks ha hp hb) (blank_newline _)
      (blank_newline _) h hrest)

theorem writes_object (level : Nat) : ∀ {members : List (String × Json)} {ps : List (List Char)},
    List.Forall₂ MemberPiece members ps →
      Writes (.object members) (enclose '\x7b' '\x7d' level ps)
  | _, _, .nil => .emptyObject blank_nil
  | _, _, .cons h hrest =>
    .object (@linesText _ MemberText MemberPiece MembersText .one .cons MemberPiece.memberText
      _ _ (blank_newline _) (blank_newline _) _ _ _ _ h hrest)

mutual

/-- All numbers of the tree are integers of sixty-four bits. -/
def Integral : Json → Prop
  | .double _ => False
  | .int n => -9223372036854775808 ≤ n ∧ n ≤ 18446744073709551615
  | .array items => IntegralItems items
  | .object members => IntegralMembers members
  | .null | .bool _ | .string _ => True

/-- All numbers of the items are integers of sixty-four bits. -/
def IntegralItems : List Json → Prop
  | [] => True
  | v :: rest => Integral v ∧ IntegralItems rest

/-- All numbers of the members are integers of sixty-four bits. -/
def IntegralMembers : List (String × Json) → Prop
  | [] => True
  | (_, v) :: rest => Integral v ∧ IntegralMembers rest

end

mutual

theorem writes_print (level : Nat) : ∀ {v : Json}, v.Integral → Writes v (print level v)
  | .null, _ => .null
  | .bool b, _ => by cases b <;> exact .bool _
  | .int n, h => .int h.1 h.2
  | .string s, _ => .string (stringText_printString s)
  | .array items, h => writes_array level (writes_printItems (level + 1) h)
  | .object members, h => writes_object level (writes_printMembers (level + 1) h)

theorem writes_printItems (level : Nat) : ∀ {items : List Json}, IntegralItems items →
    List.Forall₂ Writes items (printItems level items)
  | [], _ => .nil
  | _ :: _, h => .cons (writes_print level h.1) (writes_printItems level h.2)

theorem writes_printMembers (level : Nat) : ∀ {members : List (String × Json)},
    IntegralMembers members → List.Forall₂ MemberPiece members (printMembers level members)
  | [], _ => .nil
  | (_, _) :: _, h =>
    .cons ⟨_, rfl, writes_print level h.1⟩ (writes_printMembers level h.2)

end

/-- A document without doubles reads back from its lines as it was. -/
theorem read_pretty {v : Json} (hd : v.depth ≤ 127) (h : v.Integral) : read v.pretty = .ok v := by
  refine read_padded hd ?_
  rw [pretty, String.toList_ofList]
  exact (writes_print 0 h).bare

end Values

end Conformance.Json
