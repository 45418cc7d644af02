import Conformance.Catalogue
import Conformance.Choice
import Conformance.Log
import Conformance.Selection
import Conformance.Text.Quoted

/-!
# Plans

The cases that a run executes, in order. `Plan.ofSelection` resolves a selection against a
catalogue; only a key that no case answers to has no plan. `Plan.log` says what was made of the
selection.
-/

namespace Conformance

/-- The cases of a run and the groups that they were taken from. -/
structure Plan where
  groups : List Group
  cases : List TestCase
  deriving Repr, DecidableEq

namespace Plan

/-- The plan that executes nothing. -/
def empty : Plan := ⟨[], []⟩

/-- The plan that executes groups one after the other. -/
def ofGroups (k : Catalogue) (groups : List Group) : Plan := ⟨groups, groups.flatMap k.casesOf⟩

/-- The first of the groups that has cases, or else the first of all. -/
def firstGroup? (k : Catalogue) (groups : List Group) : Option Group :=
  groups.find? (fun g => !(k.casesOf g).isEmpty) <|> groups.head?

/-- The groups that the policy executes of the selected ones. -/
def chosenGroups (k : Catalogue) (policy : GroupPolicy) (groups : List Group) : List Group :=
  match policy with
  | .union => groups
  | .first => (firstGroup? k groups).toList

/-- The plan of a selection. -/
def ofSelection (k : Catalogue) (policy : GroupPolicy) : Selection → Except Failure Plan
  | .nothing | .unrecognized _ => .ok empty
  | .single key =>
    match k.find? key with
    | some (g, c) => .ok ⟨[g], [c]⟩
    | none => .error (.unknownCase key)
  | .all => .ok (ofGroups k k.implemented)
  | .groups groups _ => .ok (ofGroups k (chosenGroups k policy groups))

/-- The line about a group that is to be executed. -/
def groupLine (k : Catalogue) (g : Group) : LogLine :=
  match k.casesOf g with
  | [] => Log.warning ("No test cases implemented for " ++ g.name ++ ", skipping")
  | cases =>
    Log.info ("Executing " ++ g.name ++ " test suite (" ++ toString cases.length ++ " case(s))")

/-- The lines about the groups of which a policy executes one only. -/
def policyLog (k : Catalogue) (policy : GroupPolicy) (groups : List Group) : Log :=
  match policy, firstGroup? k groups with
  | .first, some g =>
    if 1 < groups.length then
      [Log.warning ("Several plugins given; executing " ++ g.name
        ++ " only (multi_group = first), skipping "
        ++ ", ".intercalate ((groups.filter (· ≠ g)).map Group.name))]
    else []
  | _, _ => []

/-- The lines about a selection. -/
def log (k : Catalogue) (policy : GroupPolicy) : Selection → Log
  | .nothing => [Log.info "No plugin or test case given, nothing to execute"]
  | .unrecognized targets =>
    [Log.warning ("No known plugin or test case in " ++ Text.quotedList targets
      ++ ", nothing to execute")]
  | .single key =>
    match k.find? key with
    | some (_, c) => [Log.info ("Execution of testcase " ++ c.name)]
    | none => []
  | .all =>
    Log.info "Executing complete test suite for all plugins" :: k.implemented.map (groupLine k)
  | .groups groups ignored =>
    (if ignored.isEmpty then []
      else [Log.warning ("Ignoring unrecognised target(s): " ++ ", ".intercalate ignored)])
      ++ policyLog k policy groups ++ (chosenGroups k policy groups).map (groupLine k)

end Plan

end Conformance
