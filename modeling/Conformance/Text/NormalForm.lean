import Conformance.Text.Composites
import Conformance.Text.Marks

/-!
# Normal form

The same text can be written with composites or with letters and marks, and the marks of different
ranks in any order. `normalForm` takes every character apart, puts the marks of each letter in the
order of their ranks, and composes what can be composed.
-/

namespace Conformance.Text

/-- A character taken apart, and so often its letter again. -/
def takeApart : Nat → Char → List Char
  | 0, c => [c]
  | depth + 1, c =>
    match parts? c with
    | none => [c]
    | some (letter, mark) => takeApart depth letter ++ [mark]

/-- Puts a character behind a text, a mark in front of those marks at the end that have a higher
rank. The text runs from its end to its start. -/
def insertMark (c : Char) : List Char → List Char
  | [] => [c]
  | b :: rest =>
    let rank := markRank c.toNat
    if rank ≠ 0 && rank < markRank b.toNat then b :: insertMark c rest else c :: b :: rest

/-- A text whose last letter may still take marks. All parts run from the end to the start. -/
structure Cluster where
  /-- What is finished. -/
  done : List Char
  /-- The last letter. -/
  letter : Option Char
  /-- The marks behind it that it does not take. -/
  marks : List Char

/-- The whole text, from its end to its start. -/
def Cluster.all (k : Cluster) : List Char := k.marks ++ k.letter.toList ++ k.done

/-- Adds a character. The letter does not take a mark behind one of the same rank or a higher one.
-/
def Cluster.add (k : Cluster) (c : Char) : Cluster :=
  let rank := markRank c.toNat
  let taken := match k.letter, k.marks with
    | some letter, [] => composite? letter c
    | some letter, m :: _ => if markRank m.toNat < rank then composite? letter c else none
    | none, _ => none
  match taken with
  | some x => ⟨k.done, some x, k.marks⟩
  | none => if rank = 0 then ⟨k.all, some c, []⟩ else ⟨k.done, k.letter, c :: k.marks⟩

/-- The text in normal form. -/
def normalForm (s : List Char) : List Char :=
  let apart := s.flatMap (takeApart 4)
  let inOrder := (apart.foldl (fun before c => insertMark c before) []).reverse
  (inOrder.foldl Cluster.add ⟨[], none, []⟩).all.reverse

end Conformance.Text
