import ApiScaffold.Emission.PythonTree
import ApiScaffold.Naming.TypeName
import ApiScaffold.Service.Basic

/-!
# Types in Python

The annotation of a model, together with the imports that it needs and the structs
that it names.  A reference to a struct is its name; a reference to any other model
is written out.

Writing references out takes at most as many steps as there are models, unless a
model leads back to itself.
-/

namespace ApiScaffold.PythonCode

/-- An annotation and what it needs. -/
structure TypeCode where
  expression : Expression
  /-- The modules and names to import. -/
  imports : List (String × String)
  /-- The names of the structs that occur. -/
  structs : List String

/-- A type that every program knows. -/
def TypeCode.builtin (name : String) : TypeCode :=
  ⟨.name name, [], []⟩

/-- A type of a module. -/
def TypeCode.imported (module name : String) : TypeCode :=
  ⟨.name name, [(module, name)], []⟩

/-- The annotation of a primitive kind. -/
def primitiveTypeCode? : ModelKind → Option TypeCode
  | .boolean => some (.builtin "bool")
  | .string => some (.builtin "str")
  | .byte | .int | .int8 | .int16 | .int32 | .int64 | .uint | .uint8 | .uint16 | .uint32
  | .uint64 => some (.builtin "int")
  | .float32 | .float64 => some (.builtin "float")
  | .any => some (.imported "typing" "Any")
  | .date => some (.imported "datetime" "date")
  | .time => some (.imported "datetime" "time")
  | .datetime => some (.imported "datetime" "datetime")
  | .array | .map | .struct | .enum | .iterator | .reference => none

/-- The annotation of a byte string. -/
def bytesTypeCode : TypeCode :=
  .builtin "bytes"

/-- Put an annotation into a generic type. -/
def TypeCode.inside (type : TypeCode) (wrap : Expression → Expression) : TypeCode :=
  { type with expression := wrap type.expression }

/-- An annotation with more imports. -/
def TypeCode.importing (type : TypeCode) (imports : List (String × String)) : TypeCode :=
  { type with imports := type.imports ++ imports }

/-- The annotation of a value that may be absent. -/
def TypeCode.optional (type : TypeCode) : TypeCode :=
  type.inside fun expression => .either expression .none

mutual

/-- The annotation of a model, given those of references. -/
def typeCodeWith (expand : Option String → Outcome TypeCode) : Model → Outcome TypeCode
  | ⟨kind, element, _, name, _⟩ =>
      match primitiveTypeCode? kind with
      | some type => .ok type
      | none =>
          match kind with
          | .array => do
              let (isByte, type) ← elementTypeCode expand element
              if isByte then pure bytesTypeCode
              else pure (type.inside fun item => .generic "list" [item])
          | .map => do
              let (_, type) ← elementTypeCode expand element
              pure (type.inside fun item => .generic "dict" [.name "str", item])
          | .iterator => do
              let (isByte, type) ← elementTypeCode expand element
              let item := if isByte then bytesTypeCode else type
              pure ((item.inside fun item => .generic "AsyncIterator" [item]).importing
                [("collections.abc", "AsyncIterator")])
          | .reference => expand name
          | kind => .error (.generation (.anonymousModel kind) (some "python types") none)
termination_by structural model => model

/-- The annotation of an element, and whether it is a byte. -/
def elementTypeCode (expand : Option String → Outcome TypeCode) :
    Option Model → Outcome (Bool × TypeCode)
  | none => .error (.fault (.missingPart "kind"))
  | some element => do
      pure (decide (element.kind = .byte), ← typeCodeWith expand element)
termination_by structural element => element

end

/-- The annotation of a reference, written out in at most `steps` steps. -/
def referenceTypeCode (service : Service) : Nat → Option String → Outcome TypeCode
  | 0, _ => .error (.fault .tooDeep)
  | steps + 1, name => do
      let target ← service.model name
      if target.isStruct then
        let typeName := Naming.typeName (name.getD "")
        pure ⟨.name typeName, [], [typeName]⟩
      else typeCodeWith (referenceTypeCode service steps) target

/-- The annotation of a model. -/
def typeCode (service : Service) (model : Model) : Outcome TypeCode :=
  typeCodeWith (referenceTypeCode service (service.models.length + 1)) model

end ApiScaffold.PythonCode
