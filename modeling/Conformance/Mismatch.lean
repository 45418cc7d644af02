import Conformance.Decimal.Shortest
import Conformance.Text.Quoted

/-!
# Data that does not fit

How the data of a configuration or a suite can fail to have the shape that is wanted, and the
sentence for each failure. The sentences are the same for both formats that such data comes in.
-/

namespace Conformance

/-- What stands where something else is wanted. -/
inductive Found where
  | bool (b : Bool)
  | int (n : Int)
  /-- An integer beyond sixty-four bits. -/
  | wideInt (n : Int)
  | double (bits : UInt64)
  | string (s : String)
  | unit
  | sequence
  | map
  deriving Repr, DecidableEq

/-- A double in a sentence. -/
def doubleText (bits : UInt64) : String :=
  if Decimal.exponentField bits = 2047 then
    if Decimal.fractionField bits ≠ 0 then "NaN"
    else if Decimal.signField bits then "-inf" else "inf"
  else Decimal.positional bits

/-- What was found, in a sentence. -/
def Found.phrase : Found → String
  | .bool b => "boolean `" ++ (if b then "true" else "false") ++ "`"
  | .int n => "integer `" ++ toString n ++ "`"
  | .wideInt n => "integer `" ++ toString n ++ "` as " ++ (if n < 0 then "i128" else "u128")
  | .double bits => "floating point `" ++ doubleText bits ++ "`"
  | .string s => "string " ++ Text.quoted s
  | .unit => "unit value"
  | .sequence => "sequence"
  | .map => "map"

/-- A failure of data to have the shape that is wanted. -/
inductive Mismatch where
  | wrongType (found : Found) (wanted : String)
  | wrongValue (found : Found) (wanted : String)
  | missingField (name : String)
  | duplicateField (name : String)
  | unknownVariant (name : String) (known : List String)
  deriving Repr, DecidableEq

/-- A list of alternatives in a sentence. -/
def alternatives : List String → String
  | [] => "there are no variants"
  | [a] => "`" ++ a ++ "`"
  | [a, b] => "`" ++ a ++ "` or `" ++ b ++ "`"
  | l => "one of " ++ ", ".intercalate (l.map fun a => "`" ++ a ++ "`")

/-- The sentence for a mismatch. -/
def Mismatch.message : Mismatch → String
  | .wrongType found wanted => "invalid type: " ++ found.phrase ++ ", expected " ++ wanted
  | .wrongValue found wanted => "invalid value: " ++ found.phrase ++ ", expected " ++ wanted
  | .missingField name => "missing field `" ++ name ++ "`"
  | .duplicateField name => "duplicate field `" ++ name ++ "`"
  | .unknownVariant name known =>
    "unknown variant `" ++ name ++ "`, expected " ++ alternatives known

end Conformance
