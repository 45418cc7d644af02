import Conformance.Choice
import Conformance.Path
import Conformance.Text.Blank

/-!
# Configuration

What a run needs to know. `Config.check` refuses values that would fail in the middle of a run; of
several flaws it names the first in the order of its tests.
-/

namespace Conformance

/-- The settings of a run. -/
structure Config where
  /-- Stands in the title and the file name of the report. -/
  buildName : String := "23Q4-HAL-MOCK-TEST"
  endpoint : String := "http://127.0.0.1:55555/jsonrpc"
  channel : Channel := .curl
  /-- The program of the curl channel. -/
  curlBinary : String := "curl"
  /-- Seconds that a request may take; none leaves that to the channel. -/
  timeout : Option Nat := none
  matchMode : MatchMode := .exact
  groupPolicy : GroupPolicy := .first
  /-- Where the report goes. -/
  outputDir : String := "test-results"
  /-- The file of recorded rows, seen from there. -/
  csvFile : String := "test_results.csv"
  /-- Where further suites are read from. -/
  suitesDir : Option String := none
  deriving Repr, DecidableEq

/-- Why a configuration cannot be used. -/
inductive ConfigFlaw where
  | emptyEndpoint
  | emptyBuildName
  | separatorInBuildName (name : String)
  | emptyCsvFile
  | zeroTimeout
  | noSuitesDirectory (dir : String)
  | channel (reason : String)
  deriving Repr, DecidableEq

/-- The sentence for a flaw. -/
def ConfigFlaw.message : ConfigFlaw → String
  | .emptyEndpoint => "endpoint must not be empty"
  | .emptyBuildName => "build_name must not be empty"
  | .separatorInBuildName name =>
    "build_name is used in a file name and cannot contain path separators: " ++ name
  | .emptyCsvFile => "csv_file must not be empty"
  | .zeroTimeout => "timeout_secs must be at least 1; omit it to keep the transport default"
  | .noSuitesDirectory dir => "suites directory does not exist: " ++ dir
  | .channel reason => "transport: " ++ reason

namespace Config

/-- Refuses a configuration with a flaw. -/
def check (c : Config) : Except ConfigFlaw Unit :=
  if Text.allBlank c.endpoint then .error .emptyEndpoint
  else if Text.allBlank c.buildName then .error .emptyBuildName
  else if c.buildName.toList.any fun x => x = '/' || x = '\\' then
    .error (.separatorInBuildName c.buildName)
  else if Text.allBlank c.csvFile then .error .emptyCsvFile
  else if c.timeout = some 0 then .error .zeroTimeout
  else .ok ()

/-- The path of the file of recorded rows. -/
def csvPath (c : Config) : String := Path.join c.outputDir c.csvFile

end Config

end Conformance
