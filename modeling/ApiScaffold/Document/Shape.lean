import ApiScaffold.Data.Decoded
import ApiScaffold.Document.Issue
import ApiScaffold.Text.Digit

/-!
# The shapes of values

Checks for the building blocks of a document: texts, truth values, lists, mappings
and the fields of objects.

Numbers are accepted as texts, and some texts and numbers as truth values.  A field
that may be absent may also be null.
-/

namespace ApiScaffold.Shape

/-- The smallest number that has too many digits to be written out. -/
def unwritableBound : Nat := Nat.pow 10 Text.integerDigitLimit

/-- Whether an integer can be written out. -/
def isWritable (value : Int) : Bool :=
  value.natAbs < unwritableBound

/-- The text of a scalar; numbers are written out. -/
def scalarText : Scalar → Check String
  | .text value => .ok value
  | .int value =>
      if isWritable value then .ok (Scalar.int value).nameText else .error .unwritable
  | .float value => .ok (Scalar.float value).nameText
  | .bytes value =>
      match Text.decode? ⟨value.toArray⟩ with
      | some value => .ok value
      | none => Check.issue .notUnicode
  | _ => Check.issue .notText

/-- A text; numbers are written out. -/
def text (decoded : Decoded) : Check String :=
  match decoded.form with
  | .scalar scalar => scalarText scalar
  | _ => Check.issue .notText

/-- The words that stand for "true". -/
def trueWords : List String :=
  ["1", "on", "t", "true", "y", "yes"]

/-- The words that stand for "false". -/
def falseWords : List String :=
  ["0", "off", "f", "false", "n", "no"]

/-- The truth value that a word stands for; case does not count. -/
def truthOfWord (word : String) : Check Bool :=
  if trueWords.contains word.toLower then .ok true
  else if falseWords.contains word.toLower then .ok false
  else Check.issue .unclearTruth

/-- The largest integer of 64 bits with a sign. -/
def largestWord : Int := 9223372036854775807

/-- The truth value that a number stands for.  Only an integer of 64 bits is compared with
zero and one. -/
def truthOfNumber : Option Int → Check Bool
  | none => Check.issue .notTruth
  | some value =>
      if value = 0 then .ok false
      else if value = 1 then .ok true
      else if -largestWord - 1 ≤ value ∧ value ≤ largestWord then Check.issue .unclearTruth
      else Check.issue .notTruth

/-- A truth value. -/
def truth (decoded : Decoded) : Check Bool :=
  match decoded.form with
  | .scalar (.bool value) => .ok value
  | .scalar (.text word) =>
      if Text.hasHalf word then Check.issue .notUnicode else truthOfWord word
  | .scalar (.int value) => truthOfNumber (some value)
  | .scalar (.float value) => truthOfNumber value.toInt?
  | .scalar (.bytes value) =>
      match Text.decode? ⟨value.toArray⟩ with
      | some word => truthOfWord word
      | none => Check.issue .unclearTruth
  | _ => Check.issue .notTruth

/-- A list; issues are placed below the index of their item. -/
def list {α : Type} (item : Decoded → Check α) (decoded : Decoded) : Check (List α) :=
  match decoded.items? with
  | some items =>
      Check.all (items.zipIdx.map fun (value, index) => (item value).below (toString index))
  | none => Check.issue .notList

/-- One entry of a mapping with text keys. -/
def entry {α : Type} (key : Scalar) (value : Check α) : Check (String × α) :=
  ((scalarText key).below "[key]" |>.both value).below key.locationText

/-- The entries of a mapping with text keys. -/
def entries {α : Type} (checks : List (Check (String × α))) : Check (List (String × α)) :=
  (Check.all checks).map Entries.ofList

/-- A mapping with text keys. -/
def mapping {α : Type} (item : Decoded → Check α) (decoded : Decoded) :
    Check (List (String × α)) :=
  match decoded.entries? with
  | some pairs => entries (pairs.map fun (key, value) => entry key (item value))
  | none => Check.issue .notMapping

/-- The text that a key is written as; a number with too many digits has none. -/
def writtenKey : Scalar → Option String
  | .int value => if isWritable value then some (Scalar.int value).nameText else none
  | key => some key.nameText

/-- A mapping whose keys are written out as texts, whatever they are. -/
def namedMapping {α : Type} (item : Decoded → Check α) (decoded : Decoded) :
    Check (List (String × α)) :=
  match decoded.entries? with
  | some pairs =>
      match pairs.mapM fun (key, value) => (writtenKey key).map fun name => (name, value) with
      | some named =>
          entries ((Entries.ofList named).map fun (name, value) => entry (.text name) (item value))
      | none => Check.issue .unwritableKey
  | none => Check.issue .notMapping

/-- An object with fields. -/
def object {α : Type} (fields : List (Scalar × Decoded) → Check α) (decoded : Decoded) :
    Check α :=
  match decoded.entries? with
  | some pairs => fields pairs
  | none => Check.issue .notObject

/-- The field under the first of these names that is present. -/
def find? (pairs : List (Scalar × Decoded)) (names : List String) : Option (String × Decoded) :=
  names.findSome? fun name => (Value.findText pairs name).map fun value => (name, value)

/-- A field that may be absent or null. -/
def optional {α : Type} (names : List String) (item : Decoded → Check α)
    (pairs : List (Scalar × Decoded)) : Check (Option α) :=
  match find? pairs names with
  | none => .ok none
  | some (name, decoded) =>
      match decoded.value with
      | .scalar .null => .ok none
      | _ => ((item decoded).below name).map some

/-- A truth value that is false unless it is given; it may be null. -/
def flag (name : String) (pairs : List (Scalar × Decoded)) : Check (Option Bool) :=
  match Value.findText pairs name with
  | none => .ok (some false)
  | some _ => optional [name] truth pairs

/-- A field that has to be present. -/
def required {α : Type} (name : String) (item : Decoded → Check α)
    (pairs : List (Scalar × Decoded)) : Check α :=
  match Value.findText pairs name with
  | none => (Check.issue .missing).below name
  | some value => (item value).below name

end ApiScaffold.Shape
