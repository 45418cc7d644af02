import Conformance.Text.Direction
import Conformance.Text.Folding
import Conformance.Text.NormalForm
import Conformance.Url.Address
import Conformance.Url.Punycode

/-!
# Names of hosts

A name of a host consists of labels with points between. Names that a reader takes for the same are
the same name: `Domain.ofText?` folds a name, puts it in normal form, and writes a label that is not
ASCII in letters, digits and hyphens behind `xn--`. A name that could be misread is refused.
-/

namespace Conformance.Url.Domain

open Text

/-- What no name may hold. -/
def isForbidden (c : Char) : Bool :=
  c.toNat ≤ 0x20 || c.toNat = 0x7F || "#/:<>?@[\\]^|%".toList.contains c

/-- Is the character beyond ASCII? -/
def isBeyond (c : Char) : Bool := 0x80 ≤ c.toNat

/-- Is the label one that folding leaves alone? -/
def isFolded (label : List Char) : Bool :=
  match label.mapM fold? with
  | none => false
  | some folded => normalForm folded.flatten = label

/-- The text that a label stands for. One behind `xn--` stands for a text in normal form that is not
all ASCII. -/
def meaning? (label : List Char) : Option (List Char) :=
  match label with
  | 'x' :: 'n' :: '-' :: '-' :: code =>
    if 2000 < code.length then none
    else (Punycode.decode? code).filter fun s => s.any isBeyond && isFolded s
  | label => some label

/-- Can the label be read alone? It does not begin with a mark, and signs that join its letters mean
something. -/
def isSound (label : List Char) : Bool :=
  !((label.head?.map fun c => isMark c.toNat).getD false) && joinersApply label

/-- The label in ASCII. -/
def written? (label : List Char) : Option (List Char) :=
  if !label.any isBeyond then some label
  else if 1000 < label.length then none
  else some ("xn--".toList ++ Punycode.encode label)

/-- The name in ASCII that a text stands for. Where one label has letters from right to left, every
label keeps its direction. -/
def ofText? (s : List Char) : Option String := do
  let folded ← s.mapM fold?
  let name := normalForm folded.flatten
  if name.any isForbidden then none
  let labels := splitWhere (· = '.') name
  let meanings ← labels.mapM meaning?
  if !meanings.all isSound then none
  let directions := meanings.map (·.map fun c => Direction.ofCode c.toNat)
  if directions.any (·.any Direction.isRight) && !directions.all keepsDirection then none
  let written ← labels.mapM written?
  return ".".intercalate (written.map String.ofList)

end Conformance.Url.Domain
