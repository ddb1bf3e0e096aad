import ApiScaffold.Data.Json
import ApiScaffold.Data.Toml.Value
import ApiScaffold.Data.Yaml.Value
import ApiScaffold.Storage.Basic

/-!
# Decoded files

The text of a file is decoded by a format.  A text that is not in its format is
malformed; a scalar that no value can be built from is a fault of its own.
-/

namespace ApiScaffold

/-- The fault of a scalar without a value. -/
def Fault.ofScalar : ScalarFault → Fault
  | .badBoolean text => .unknownKey (some text)
  | .emptyNumber => .emptyNumber
  | .badTimestamp => .missingPart "groupdict"
  | .mappedTimestamp => .wrongType ScalarFault.mappedTimestamp.message
  | .wideCodePoint => .overflow ScalarFault.wideCodePoint.message
  | .wideWeight => .overflow ScalarFault.wideWeight.message
  | fault => .invalidValue fault.message

/-- The fault of a text in a format. -/
def Fault.ofDecoding (format : Format) : DecodingFault → Fault
  | .malformed => .malformed format
  | .scalar fault => .ofScalar fault
  | .tooDeep => .tooDeep

/-- Read a text in a format. -/
def Format.decode (format : Format) (text : String) : Except Fault Decoded :=
  let decoded :=
    match format with
    | .json => (Json.read text).map Decoded.ofValue
    | .yaml => Yaml.read text
    | .toml => (Toml.read text).map Decoded.ofValue
  decoded.mapError (Fault.ofDecoding format)

/-- The value in a file. -/
def Storage.readValue (storage : Storage) (path : FilePath) (format : Format) :
    Except Fault Decoded := do
  let text ← storage.readText path
  format.decode text

end ApiScaffold
