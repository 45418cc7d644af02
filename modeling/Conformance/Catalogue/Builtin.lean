import Conformance.Catalogue
import Conformance.Json.Printer

/-!
# Built-in suites

The suites that every run knows: the front panel, the status of the content protection, and the
control of the device's LED. A case calls one method of the host; its request and the response that
it is to get are single-line JSON documents.
-/

namespace Conformance.Builtin

/-- An object, from its members. -/
def object (members : List (String × Json)) : Json := .object members

/-- The text of a call of a method. -/
def callText (id : Int) (method : String) (params : List (String × Json)) : String :=
  Json.compact <| object <|
    [("jsonrpc", .string "2.0"), ("id", .int id), ("method", .string method)]
      ++ if params.isEmpty then [] else [("params", object params)]

/-- The text of a reply with a result. -/
def replyText (id : Int) (result : Json) : String :=
  Json.compact (object [("jsonrpc", .string "2.0"), ("id", .int id), ("result", result)])

/-- The members of a successful result, followed by the mark of success. -/
def success (members : List (String × Json)) : String :=
  replyText 42 (object (members ++ [("success", .bool true)]))

/-- The text of a reply that refuses a call. -/
def refusal (code : Int) (message : String) : String :=
  Json.compact <| object
    [("jsonrpc", .string "2.0"), ("id", .int 42),
      ("error", object [("code", .int code), ("message", .string message)])]

/-- The case that calls a method of the controller on a plugin, which replies with nothing. -/
def controllerCase (name id method callsign : String) (description : String := "")
    (passDetail : Option String := none) : TestCase where
  name := name
  id := id
  description := description
  setup := []
  request := callText 3 ("Controller.1." ++ method) [("callsign", .string callsign)]
  expected := replyText 3 .null
  passDetail := passDetail

/-! ## Front panel -/

/-- A call of a method of the front panel. -/
def panelCall (method : String) (params : List (String × Json)) : String :=
  callText 42 ("org.rdk.FrontPanel.1." ++ method) params

/-- A case that calls a method of the front panel. -/
def panelCase (name id description method : String) (params : List (String × Json))
    (expected : String) (passDetail : Option String := none) : TestCase where
  name := "TCID_" ++ name
  id := "TCID" ++ id
  description := description
  setup := []
  request := panelCall method params
  expected := expected
  passDetail := passDetail

/-- The parameter that names the power LED. -/
def powerLed : String × Json := ("index", .string "power_led")

/-- The brightness as a parameter or a result. -/
def brightness (n : Int) : String × Json := ("brightness", .int n)

/-- A colour as three parameters. -/
def colour (red green blue : Int) : List (String × Json) :=
  [("red", .int red), ("green", .int green), ("blue", .int blue)]

/-- The preferences that one case stores and the next reads. -/
def preferences : String × Json := ("preferences", object [("test", .bool true)])

/-- The front panel's LEDs and clock. -/
def frontPanel : Suite where
  group := .frontPanel
  callsign := some "org.rdk.FrontPanel"
  description := "Front panel LEDs and clock display"
  cases := [
    controllerCase "TCID_000_DS_FrontPanel_Activate" "TCID000_FrontPanel_activate" "activate"
      "org.rdk.FrontPanel" "Activate the FrontPanel plugin through the controller"
      (some "The FrontPanel plugin is activated"),
    panelCase "001_DS_FrontPanel_getBrightness" "001_FrontPanel_get_brightness"
      "Returns the brightness of the power LED"
      "getBrightness" [powerLed] (success [brightness 50])
      (some "The power LED brightness is obtained in output response"),
    panelCase "011_DS_FrontPanel_setPreferences" "011_FrontPanel_set_preferences"
      "Stores front panel preferences"
      "setPreferences" [preferences] (success []),
    panelCase "002_DS_FrontPanel_getPreferences" "002_FrontPanel_get_preferences"
      "Returns the preferences stored by setPreferences"
      "getPreferences" [] (success [preferences])
      (some "The stored preferences are obtained in output response"),
    panelCase "003_DS_FrontPanel_is24HourClock" "003_FrontPanel_is_24_hour_clock"
      "Returns whether the clock shows 24-hour time"
      "is24HourClock" [] (success [("is24Hour", .bool false)]),
    panelCase "014_DS_FrontPanel_setClockBrightness" "014_FrontPanel_set_clock_brightness"
      "Sets the clock display brightness"
      "setClockBrightness" [brightness 50] (success []),
    panelCase "004_DS_FrontPanel_getClockBrightness" "004_FrontPanel_get_clock_brightness"
      "Returns the clock display brightness"
      "getClockBrightness" [] (success [brightness 50]),
    panelCase "005_DS_FrontPanel_powerLedOff" "005_FrontPanel_power_led_off"
      "Switches the power LED off"
      "powerLedOff" [powerLed] (success [])
      (some "The power led OFF is obtained in output response"),
    panelCase "006_DS_FrontPanel_powerLedOn" "006_FrontPanel_power_led_on"
      "Switches the power LED on"
      "powerLedOn" [powerLed] (success [])
      (some "The power led ON is obtained in output response"),
    panelCase "007_DS_FrontPanel_set24HourClock" "007_FrontPanel_set_24_hour_clock"
      "Switches the clock to 24-hour time"
      "set24HourClock" [("is24Hour", .bool true)] (success []),
    panelCase "008_DS_FrontPanel_setBlink" "008_FrontPanel_set_blink"
      "Plays a blink pattern on the power LED"
      "setBlink"
      [("blinkInfo", object [("ledIndicator", .string "power_led"), ("iterations", .int 10),
        ("pattern", .array [object ([brightness 50, ("duration", .int 1000)] ++ colour 2 2 2)])])]
      (success []),
    panelCase "009_DS_FrontPanel_setClockTestPattern" "009_FrontPanel_set_clock_test_pattern"
      "Shows the clock test pattern for a few seconds"
      "setClockTestPattern" [("show", .bool true), ("timeInterval", .int 4)] (success []),
    panelCase "010_DS_FrontPanel_setLED" "010_FrontPanel_set_led"
      "Sets brightness and colour of the power LED"
      "setLED" ([("ledIndicator", .string "power_led"), brightness 50] ++ colour 0 0 0)
      (success []),
    panelCase "013_DS_FrontPanel_setBrightness" "013_FrontPanel_set_brightness"
      "Sets the power LED brightness"
      "setBrightness" [brightness 1, powerLed] (success []),
    { panelCase "015_DS_FrontPanel_getSetBrightnessCombination"
        "015_FrontPanel_get_set_brightness_combination"
        "A brightness written with setBrightness is read back by getBrightness"
        "getBrightness" [powerLed] (success [brightness 60])
        (some "The brightness set is obtained in output response") with
      setup := [panelCall "setBrightness" [brightness 60, powerLed]] },
    panelCase "012_DS_FrontPanel_getFrontPanelLights" "012_FrontPanel_get_front_panel_lights"
      "Lists the supported lights and their ranges"
      "getFrontPanelLights" []
      (success [("supportedLights", .array [.string "power_led"]),
        ("supportedLightsInfo", object [("power_led", object [("range", .string "boolean"),
          ("min", .int 0), ("max", .int 2), ("colorMode", .int 0)])])]),
    panelCase "018_DS_FrontPanel_negative" "018_FrontPanel_unknown_method"
      "An unknown method is rejected by the plugin host"
      "getBrightnes" [powerLed] (refusal (-32601) "Unknown method."),
    panelCase "020_DS_FrontPanel_powerLed_invalid" "020_FrontPanel_power_led_invalid_index"
      "powerLedOn with an unknown LED index fails"
      "powerLedOn" [("index", .string "invalid_led")] (refusal 1 "ERROR_GENERAL"),
    panelCase "021_DS_FrontPanel_LEDBrightnessNegative" "021_FrontPanel_led_brightness_negative"
      "setBrightness with a negative value fails"
      "setBrightness" [brightness (-1), powerLed] (refusal 1 "ERROR_GENERAL"),
    panelCase "022_DS_FrontPanel_24HrClock_invalid" "022_FrontPanel_24_hour_clock_invalid"
      "set24HourClock with a non-boolean flag fails"
      "set24HourClock" [("is24Hour", .string "yes")] (refusal (-32602) "Invalid params."),
    controllerCase "TCID_016_DS_FrontPanel_Deactivate" "TCID016_FrontPanel_deactivate" "deactivate"
      "org.rdk.FrontPanel" "Deactivate the FrontPanel plugin through the controller"
      (some "The FrontPanel plugin is deactivated")]

/-! ## Content protection -/

/-- The status of the content protection as the display settings report it. The reason is 0 without
a cable, 1 with power but before a start, 2 after success, 3 after failed attempts, 4 in progress
and 5 with the port disabled. -/
def hdcpProfile : Suite where
  group := .hdcpProfile
  callsign := some "org.rdk.HdcpProfile"
  description := "HDCP authentication status"
  cases := [
    controllerCase "TCID_000_DS_HDCPProfile_Activate" "TCID000_HDCPProfile_activate" "activate"
      "org.rdk.HdcpProfile",
    { name := "TCID_001_DS_HDCPProfile_getHDCPStatus"
      id := "TCID001_DS_HDCPProfile_getHdcpStatus"
      description := "Returns HDCP-related data"
      setup := []
      request := callText 42 "org.rdk.HdcpProfile.1.getHDCPStatus" []
      expected := success [("HDCPStatus", object [("isConnected", .bool false),
        ("isHDCPCompliant", .bool false), ("isHDCPEnabled", .bool true), ("hdcpReason", .int 0),
        ("supportedHDCPVersion", .string "1.4"), ("receiverHDCPVersion", .string "1.4"),
        ("currentHDCPVersion", .string "1.4")])]
      passDetail := some "The HDCP Status is obtained in output response" },
    controllerCase "TCID_002_DS_HDCPProfile_Deactivate" "TCID002_HDCPProfile_deactivate"
      "deactivate" "org.rdk.HdcpProfile"]

/-! ## LED control -/

/-- A case that calls a method of the LED control. -/
def ledCase (name id description method : String) (params : List (String × Json))
    (expected : String) : TestCase where
  name := name
  id := id
  description := description
  setup := []
  request := callText 42 ("org.rdk.LEDControl.1." ++ method) params
  expected := expected
  passDetail := none

/-- The state of the device's LED. -/
def ledControl : Suite where
  group := .ledControl
  callsign := some "org.rdk.LEDControl"
  description := "Device LED state (ACTIVE, STANDBY, ...)"
  cases := [
    controllerCase "TCID_000_DS_LEDControl_Activate" "TCID000_LEDControl_activate" "activate"
      "org.rdk.LEDControl",
    ledCase "TCID_001_DS_LEDControl_getSupportedLEDStates"
      "TCID001_LEDControl_get_supported_led_states"
      "Lists the LED states the HAL supports" "getSupportedLEDStates" []
      (success [("supportedLEDStates", .array [.string "ACTIVE", .string "STANDBY"])]),
    ledCase "TCID_002_DS_LEDControl_setLEDState" "TCID002_LEDControl_set_led_state" ""
      "setLEDState" [("state", .string "ACTIVE")] (success []),
    ledCase "TCID_003_DS_LEDControl_getLEDState" "TCID003_LEDControl_get_led_state"
      "Reads back the state written by setLEDState" "getLEDState" []
      (success [("state", .string "ACTIVE")]),
    controllerCase "TCID_004_DS_LEDControl_Deactivate" "TCID004_LEDControl_deactivate"
      "deactivate" "org.rdk.LEDControl"]

end Conformance.Builtin

namespace Conformance

/-- The catalogue of the built-in suites. -/
def Catalogue.builtin : Catalogue :=
  ⟨[Builtin.frontPanel, Builtin.hdcpProfile, Builtin.ledControl]⟩

end Conformance
