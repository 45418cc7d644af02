import Conformance.Text.Sequence

/-!
# Width of text

The number of columns that a line of text takes on a terminal with a font of fixed width.
-/

namespace Conformance.Text

/-- The columns of a line of text. -/
def width (s : String) : Nat :=
  (s.toList.foldr
    (fun c (w, b) => let (more, b) := Behind.add b c.toNat; (w + more, b)) ((0 : Int), {})).1.toNat

/-- The text, followed by as many spaces as it lacks to the width `n`. -/
def padTo (n : Nat) (s : String) : String := s ++ String.ofList (List.replicate (n - width s) ' ')

end Conformance.Text
