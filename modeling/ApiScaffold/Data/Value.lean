import ApiScaffold.Collection.Entries
import ApiScaffold.Data.Calendar
import ApiScaffold.Number.Shortest
import ApiScaffold.Text.Quoted

/-!
# Decoded values

What a document or configuration file holds once its text is decoded, whatever
its format: scalars, lists, and mappings whose keys are scalars and keep their
order.  Numbers that are equal are the same key, also across integers, fractions
and truth values, and so are moments that are the same instant.

A format that can refer to a value from several places keeps such values apart, by
numbers; `Value.part` stands for one of them.
-/

namespace ApiScaffold

/-- A value without parts. -/
inductive Scalar where
  | null
  | bool (value : Bool)
  | int (value : Int)
  | float (value : Binary64)
  | text (value : String)
  | bytes (value : List UInt8)
  | date (value : CalendarDate)
  | time (value : ClockTime)
  | moment (value : Moment)
  deriving DecidableEq, Repr, Inhabited

/-- A decoded value. -/
inductive Value where
  | scalar (value : Scalar)
  | list (items : List Value)
  | mapping (entries : List (Scalar × Value))
  /-- A set of scalars, in the order in which they were written. -/
  | set (items : List Scalar)
  /-- The value with a number, which is kept apart. -/
  | part (number : Nat)
  deriving Inhabited

namespace Scalar

/-- The integer that a scalar is equal to, if it is a number. -/
def numeral? : Scalar → Option Int
  | .bool value => some (if value then 1 else 0)
  | .int value => some value
  | .float value => value.toInt?
  | _ => none

/-- Whether two scalars are the same key. -/
def sameKey (first second : Scalar) : Bool :=
  match first, second with
  | .moment left, .moment right => left.isSameInstant right
  | _, _ =>
      match first.numeral?, second.numeral? with
      | some left, some right => left == right
      | none, none => first == second && first != .float .nan
      | _, _ => false

/-- The text of a scalar, as it appears when it is used as a name. -/
def nameText : Scalar → String
  | .null => "None"
  | .bool value => if value then "True" else "False"
  | .int value => toString value
  | .float value => value.text
  | .text value => value
  | .bytes value => Text.quotedBytes value
  | .date value => value.text
  | .time value => value.text
  | .moment value => value.text

/-- What stands for each half of a surrogate pair where a text has to have bytes. -/
def replacement : List Char :=
  List.replicate 3 (Char.ofNat 0xFFFD)

/-- The text of a key in the location of a fault. -/
def locationText : Scalar → String
  | .text value => Text.replaceHalves (fun _ => replacement) value
  | .bool value => if value then "1" else "0"
  | .date value => value.expression
  | .moment value => value.expression
  | other => other.nameText

end Scalar

namespace Value

/-- Write an entry of a mapping: a key that is present keeps its place. -/
def putEntry : List (Scalar × Value) → Scalar → Value → List (Scalar × Value)
  | [], key, value => [(key, value)]
  | (first, old) :: rest, key, value =>
      if first.sameKey key then (first, value) :: rest
      else (first, old) :: putEntry rest key value

/-- The entry under a text key. -/
def findText {α : Type} : List (Scalar × α) → String → Option α
  | [], _ => none
  | (key, value) :: rest, name => if key = .text name then some value else findText rest name

/-- The field of a value under a text key; only mappings have fields. -/
def field? : Value → String → Option Value
  | .mapping entries, name => findText entries name
  | _, _ => none

/-- A text value. -/
def ofText (value : String) : Value :=
  .scalar (.text value)

end Value

end ApiScaffold
