import ApiScaffold.Data.Calendar
import ApiScaffold.Text.Quoted

/-!
# Faults of decoded text

A text may not be in its format at all, or it may be well formed and still hold a
scalar that no value can be built from, such as the 30th of February.  And collections
can be nested too deeply for a reader that descends into them.
-/

namespace ApiScaffold

/-- A scalar that no value can be built from. -/
inductive ScalarFault where
  /-- A decimal integer with too many digits. -/
  | integerTooLong (digits : Nat)
  /-- Text that is no integer in a base. -/
  | badInteger (base : Nat) (text : String)
  /-- Text that is no number. -/
  | badNumber (text : String)
  /-- A number without any character. -/
  | emptyNumber
  /-- Text that is no truth value. -/
  | badBoolean (text : String)
  /-- Text that is no date. -/
  | badTimestamp
  /-- A mapping where the text of a date is needed. -/
  | mappedTimestamp
  /-- Numbers that make no date. -/
  | badCalendar (fault : CalendarFault)
  /-- A number that is no code point. -/
  | badCodePoint
  /-- A code that is too large to be compared with code points. -/
  | wideCodePoint
  /-- The weight of a digit is larger than all fractions. -/
  | wideWeight
  deriving DecidableEq, Repr

/-- Why a text could not be decoded. -/
inductive DecodingFault where
  /-- The text is not in the format. -/
  | malformed
  /-- A scalar has no value. -/
  | scalar (fault : ScalarFault)
  /-- Collections are nested too deeply. -/
  | tooDeep
  deriving DecidableEq, Repr

/-- The message of a fault. -/
def ScalarFault.message : ScalarFault → String
  | .integerTooLong digits =>
      "Exceeds the limit (4300 digits) for integer string conversion: value has " ++
        toString digits ++ " digits; use sys.set_int_max_str_digits() to increase the limit"
  | .badInteger base text =>
      "invalid literal for int() with base " ++ toString base ++ ": " ++
        String.ofList ((Text.quoted text).toList.take 200)
  | .badNumber text => "could not convert string to float: " ++ Text.quoted text
  | .emptyNumber => "string index out of range"
  | .badBoolean text => Text.quoted text
  | .badTimestamp => "'NoneType' object has no attribute 'groupdict'"
  | .mappedTimestamp => "expected string or bytes-like object, got 'list'"
  | .badCalendar fault => fault.message
  | .badCodePoint => "chr() arg not in range(0x110000)"
  | .wideCodePoint => "Python int too large to convert to C int"
  | .wideWeight => "int too large to convert to float"

end ApiScaffold
