import ApiScaffold.Collection.Entries

/-!
# Schema objects

A schema describes the shape of data.  Only the fields that matter for the
generated code are kept.  A schema with a pointer stands for the schema that the
pointer leads to, whatever its other fields say.
-/

namespace ApiScaffold

/-- The basic types of data. -/
inductive DataType where
  | array
  | boolean
  | integer
  | number
  | object
  | string
  deriving DecidableEq, Repr

namespace DataType

/-- The name of a type in a document. -/
def name : DataType → String
  | .array => "array"
  | .boolean => "boolean"
  | .integer => "integer"
  | .number => "number"
  | .object => "object"
  | .string => "string"

/-- All types. -/
def all : List DataType :=
  [.array, .boolean, .integer, .number, .object, .string]

/-- The type with a name. -/
def ofName? (name : String) : Option DataType :=
  all.find? fun type => type.name = name

end DataType

/-- What an object may hold besides its declared properties. -/
inductive AdditionalProperties (α : Type) where
  /-- Nothing, or anything. -/
  | allowed (value : Bool)
  /-- Values of a schema. -/
  | schema (schema : α)
  deriving Repr

/-- The description of the shape of data. -/
structure SchemaObject where
  /-- A pointer to the schema that is meant. -/
  ref : Option String
  type : Option DataType
  format : Option String
  /-- The schema of the items of an array. -/
  items : Option SchemaObject
  properties : Option (List (String × SchemaObject))
  additionalProperties : Option (AdditionalProperties SchemaObject)
  description : Option String

instance : Inhabited SchemaObject :=
  ⟨⟨none, none, none, none, none, none, none⟩⟩

end ApiScaffold
