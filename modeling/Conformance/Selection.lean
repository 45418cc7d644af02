import Conformance.Group

/-!
# Selections

What the targets of a run ask for. A target that holds the mark of a test case selects that case and
nothing else; without one, the wildcard selects every group; without that, each target is the name
of a group or is not recognised. Empty targets do not count.
-/

namespace Conformance

/-- What a run is asked to execute. -/
inductive Selection where
  | nothing
  /-- The case that answers to a key. -/
  | single (key : String)
  | all
  /-- Groups in the order of their first targets, and the targets that are none. -/
  | groups (groups : List Group) (ignored : List String)
  /-- Targets of which none is recognised. -/
  | unrecognized (targets : List String)
  deriving Repr, DecidableEq

/-- Does `part` occur in the text? -/
def occursIn (part : List Char) : List Char → Bool
  | [] => part.isEmpty
  | c :: rest => part.isPrefixOf (c :: rest) || occursIn part rest

/-- The mark of a test case. -/
def caseMark : String := "TCID"

/-- Does the target select a single case? -/
def selectsCase (target : String) : Bool := occursIn caseMark.toList target.toList

/-- The target that selects every group. -/
def wildcard : String := "all"

namespace Selection

/-- The selection by groups. -/
def byGroups (targets : List String) : Selection :=
  let ignored := targets.filter fun a => (Group.ofName? a).isNone
  match (targets.filterMap Group.ofName?).eraseDups with
  | [] => .unrecognized ignored
  | gs => .groups gs ignored

/-- The selection of the targets. -/
def ofTargets (targets : List String) : Selection :=
  let targets := targets.filter (· ≠ "")
  match targets.find? selectsCase with
  | some key => .single key
  | none =>
    if targets.isEmpty then .nothing
    else if targets.contains wildcard then .all
    else byGroups targets

end Selection

end Conformance
