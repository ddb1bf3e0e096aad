import ApiScaffold.Document.Pointer
import ApiScaffold.Document.Schema
import ApiScaffold.Model.Basic

/-!
# Models of schemas

Every schema has a model.  A pointer becomes a reference and is not followed, so
recursive schemas are no matter.  The only thing that can be missing are the items
of an array; the failure then gives the path to the array.
-/

namespace ApiScaffold

/-- The kind of a basic type with a format; unknown formats do not count. -/
def DataType.kind (type : DataType) (format : Option String) : ModelKind :=
  match type, format with
  | .integer, some "int32" => .int32
  | .integer, some "int64" => .int64
  | .number, some "double" => .float64
  | .string, some "date" => .date
  | .string, some "time" => .time
  | .string, some "date-time" => .datetime
  | .boolean, _ => .boolean
  | .integer, _ => .int
  | .number, _ => .float32
  | .string, _ => .string
  | .array, _ => .array
  | .object, _ => .struct

/-- Whether properties are declared. -/
def hasProperties (properties : Option (List (String × SchemaObject))) : Bool :=
  !(properties.getD []).isEmpty

namespace Model

/-- The model of a basic type without parts. -/
def ofDataType (type : DataType) (format description : Option String) : Model :=
  match type, format with
  | .string, some "binary" => array byte description
  | type, format => ofKind (type.kind format) description

mutual

/-- The model of a schema at a path. -/
def ofSchema : SchemaObject → String → Outcome Model
  | ⟨ref, type, format, items, properties, additional, description⟩, path =>
      match ref, type with
      | some pointer, _ => .ok (reference (pointerName pointer))
      | none, none => .ok (ofKind .any description)
      | none, some .array => do
          match ← ofItems items path with
          | some element => pure (array element description)
          | none => throw (.missingField "items" (some path))
      | none, some .object =>
          if hasProperties properties then do
            pure (struct (← ofProperties properties path) description)
          else do
            match ← ofAdditional additional path with
            | some element => pure (map element description)
            | none => pure (struct [] description)
      | none, some type => .ok (ofDataType type format description)
termination_by structural schema => schema

/-- The model of the items of an array. -/
def ofItems : Option SchemaObject → String → Outcome (Option Model)
  | none, _ => .ok none
  | some item, path => do
      pure (some (← ofSchema item (path ++ "[]")))
termination_by structural items => items

/-- The models of declared properties. -/
def ofProperties : Option (List (String × SchemaObject)) → String →
    Outcome (List (String × Model))
  | none, _ => .ok []
  | some properties, path => ofEntries properties path
termination_by structural properties => properties

/-- The models of named schemas. -/
def ofEntries : List (String × SchemaObject) → String → Outcome (List (String × Model))
  | [], _ => .ok []
  | (name, schema) :: rest, path => do
      let property ← ofSchema schema (path ++ "." ++ name)
      pure ((name, property) :: (← ofEntries rest path))
termination_by structural entries => entries

/-- The model of what may be added to an object: nothing, anything, or values of a
schema. -/
def ofAdditional : Option (AdditionalProperties SchemaObject) → String → Outcome (Option Model)
  | none, _ => .ok none
  | some (.allowed false), _ => .ok none
  | some (.allowed true), _ => .ok (some (ofKind .any none))
  | some (.schema schema), path => do
      pure (some (← ofSchema schema (path ++ "\x7b\x7d")))
termination_by structural additional => additional

end

end Model

end ApiScaffold
