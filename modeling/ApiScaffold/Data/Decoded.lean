import ApiScaffold.Data.Value

/-!
# Decoded data

A value together with the values that are kept apart.  A value that is kept apart can be
referred to from several places, and also from inside itself, so going from a value to
its parts need not come to an end.
-/

namespace ApiScaffold

/-- A decoded value, and the values that are kept apart, by their numbers. -/
structure Decoded where
  value : Value
  parts : Array Value
  deriving Inhabited

namespace Decoded

/-- A value of which nothing is kept apart. -/
def ofValue (value : Value) : Decoded :=
  ⟨value, #[]⟩

/-- The number of a value that is kept apart. -/
def number? (decoded : Decoded) : Option Nat :=
  match decoded.value with
  | .part number => some number
  | _ => none

/-- What the value is; for the number of a value that is kept apart, that value. -/
def form (decoded : Decoded) : Value :=
  match decoded.value with
  | .part number => decoded.parts.getD number (.scalar .null)
  | value => value

/-- A part of the value. -/
def within (decoded : Decoded) (value : Value) : Decoded :=
  { decoded with value := value }

/-- The items of a list or of a set. -/
def items? (decoded : Decoded) : Option (List Decoded) :=
  match decoded.form with
  | .list items => some (items.map decoded.within)
  | .set items => some (items.map fun item => decoded.within (.scalar item))
  | _ => none

/-- The entries of a mapping. -/
def entries? (decoded : Decoded) : Option (List (Scalar × Decoded)) :=
  match decoded.form with
  | .mapping entries => some (entries.map fun (key, value) => (key, decoded.within value))
  | _ => none

/-- A value that is not kept apart is what it seems to be. -/
theorem form_ofValue {value : Value} (whole : ∀ number, value ≠ .part number) :
    (ofValue value).form = value := by
  cases value with
  | part number => exact absurd rfl (whole number)
  | scalar | list | mapping | set => rfl

/-- The entries of a mapping of which nothing is kept apart. -/
theorem entries?_ofValue_mapping (entries : List (Scalar × Value)) :
    (ofValue (.mapping entries)).entries? =
      some (entries.map fun (key, value) => (key, ofValue value)) :=
  rfl

end Decoded

end ApiScaffold
