import Conformance.Shell.CharacterClass

/-!
# Patterns

A pattern stands for texts: a star for any text, a question mark for any character, brackets for one
of several characters. A quoted mark stands for itself.
-/

namespace Conformance.Shell

/-- A character of a pattern, and whether it is quoted. -/
abbrev Mark := Char × Bool

/-- The named class at the start of a pattern, and the pattern behind it. -/
def classAt? (p : List Mark) : Option ((Char → Bool) × List Mark) :=
  match p with
  | ('[', false) :: (':', false) :: rest =>
    let name := rest.takeWhile (·.1.isAlpha)
    match rest.drop name.length with
    | (':', false) :: (']', false) :: behind =>
      (characterClass? (name.map (·.1))).map fun holds => (holds, behind)
    | _ => none
  | _ => none

/-- What is left of a class in brackets, read from behind its opening bracket: whether `c` is in it,
and the pattern behind it. -/
def classHolds (c : Char) : Nat → Bool → List Mark → Option (Bool × List Mark)
  | 0, _, _ => none
  | _, _, [] => none
  | fuel + 1, first, (x, quoted) :: rest =>
    let more (found : Bool) (rest : List Mark) : Option (Bool × List Mark) :=
      (classHolds c fuel false rest).map fun (others, rest) => (found || others, rest)
    if x = ']' && !quoted && !first then some (false, rest)
    else
      match classAt? ((x, quoted) :: rest), rest with
      | some (holds, behind), _ => more (holds c) behind
      | none, ('-', false) :: (y, yq) :: behind =>
        if y = ']' && !yq then more (c = x) rest else more (x ≤ c && c ≤ y) behind
      | none, rest => more (c = x) rest

/-- Does the pattern stand for the text? -/
def stands : Nat → List Mark → Octets → Bool
  | 0, _, _ => false
  | _, [], s => s.isEmpty
  | fuel + 1, ('*', false) :: p, s =>
    stands fuel p s || (match s with
      | [] => false
      | _ :: rest => stands fuel (('*', false) :: p) rest)
  | _, _ :: _, [] => false
  | fuel + 1, ('?', false) :: p, _ :: rest => stands fuel p rest
  | fuel + 1, ('[', false) :: p, c :: rest =>
    let (negated, inner) := match p with
      | ('!', false) :: p => (true, p)
      | p => (false, p)
    match classHolds c (p.length + 1) true inner with
    | some (found, behind) => found != negated && stands fuel behind rest
    | none => c = '[' && stands fuel p rest
  | fuel + 1, (x, _) :: p, c :: rest => x = c && stands fuel p rest

/-- Does the pattern stand for the text? -/
def patternMatches (p : List Mark) (s : Octets) : Bool := stands (p.length + s.length + 1) p s

/-- The shortest or longest text at the start of `s` for which the pattern stands is cut off. -/
def cutFront (longest : Bool) (p : List Mark) (s : Octets) : Octets :=
  let lengths := List.range (s.length + 1)
  let lengths := if longest then lengths.reverse else lengths
  match lengths.find? fun n => patternMatches p (s.take n) with
  | some n => s.drop n
  | none => s

/-- The shortest or longest text at the end of `s` for which the pattern stands is cut off. -/
def cutBack (longest : Bool) (p : List Mark) (s : Octets) : Octets :=
  let lengths := List.range (s.length + 1)
  let lengths := if longest then lengths else lengths.reverse
  match lengths.find? fun n => patternMatches p (s.drop n) with
  | some n => s.take n
  | none => s

end Conformance.Shell
