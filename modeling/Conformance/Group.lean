/-!
# Capability groups

The groups of test cases that the runner knows, each one plugin of the host under test, in the order
in which a full run executes them.
-/

namespace Conformance

/-- A group of related test cases. -/
inductive Group where
  | frontPanel
  | hdcpProfile
  | ledControl
  | deviceSettings
  | bluetooth
  | wifi
  | hdmiInput
  deriving Repr, DecidableEq, Inhabited

namespace Group

/-- Every group, in the order of a full run. -/
def all : List Group :=
  [.frontPanel, .hdcpProfile, .ledControl, .deviceSettings, .bluetooth, .wifi, .hdmiInput]

/-- The name that selects the group. -/
def name : Group → String
  | .frontPanel => "FrontPanel"
  | .hdcpProfile => "HDCPProfile"
  | .ledControl => "LEDControl"
  | .deviceSettings => "DeviceSettings"
  | .bluetooth => "Bluetooth"
  | .wifi => "Wifi"
  | .hdmiInput => "HdmiInput"

/-- The group with exactly the given name. -/
def ofName? (s : String) : Option Group := all.find? (·.name == s)

theorem mem_all (g : Group) : g ∈ all := by cases g <;> decide

theorem nodup_all : all.Nodup := by decide

theorem name_injective {g h : Group} (e : g.name = h.name) : g = h := by
  revert e
  cases g <;> cases h <;> decide

theorem ofName?_name (g : Group) : ofName? g.name = some g := by cases g <;> decide

theorem name_of_ofName? {s : String} {g : Group} (h : ofName? s = some g) : g.name = s := by
  simpa using List.find?_some h

end Group

end Conformance
