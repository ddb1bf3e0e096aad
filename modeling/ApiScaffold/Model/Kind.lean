/-!
# The kinds of models

Every model has a kind.  The primitive kinds stand for themselves; the others are
built from elements, properties or the name of another model.
-/

namespace ApiScaffold

/-- The kind of a model. -/
inductive ModelKind where
  | any
  | boolean
  | string
  | byte
  | date
  | time
  | datetime
  | int
  | int8
  | int16
  | int32
  | int64
  | uint
  | uint8
  | uint16
  | uint32
  | uint64
  | float32
  | float64
  | array
  | map
  | struct
  | enum
  | iterator
  | reference
  deriving DecidableEq, Repr, Inhabited

namespace ModelKind

/-- The name of a kind. -/
def name : ModelKind → String
  | .any => "any"
  | .boolean => "boolean"
  | .string => "string"
  | .byte => "byte"
  | .date => "date"
  | .time => "time"
  | .datetime => "datetime"
  | .int => "int"
  | .int8 => "int8"
  | .int16 => "int16"
  | .int32 => "int32"
  | .int64 => "int64"
  | .uint => "uint"
  | .uint8 => "uint8"
  | .uint16 => "uint16"
  | .uint32 => "uint32"
  | .uint64 => "uint64"
  | .float32 => "float32"
  | .float64 => "float64"
  | .array => "array"
  | .map => "map"
  | .struct => "struct"
  | .enum => "enum"
  | .iterator => "iterator"
  | .reference => "reference"

/-- All kinds. -/
def all : List ModelKind :=
  [.any, .boolean, .string, .byte, .date, .time, .datetime, .int, .int8, .int16, .int32, .int64,
   .uint, .uint8, .uint16, .uint32, .uint64, .float32, .float64, .array, .map, .struct, .enum,
   .iterator, .reference]

/-- The kind with a name. -/
def ofName? (name : String) : Option ModelKind :=
  all.find? fun kind => kind.name = name

/-- Whether a kind stands for itself. -/
def isPrimitive : ModelKind → Bool
  | .array | .map | .struct | .enum | .iterator | .reference => false
  | _ => true

theorem mem_all (kind : ModelKind) : kind ∈ all := by
  cases kind <;> decide

end ModelKind

end ApiScaffold
