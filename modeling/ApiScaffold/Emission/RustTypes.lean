import ApiScaffold.Naming.TypeName
import ApiScaffold.Service.Basic

/-!
# Types in Rust

The type of a model.  A reference to a struct is its name; a reference to any other
model is written out, which takes at most as many steps as there are models unless a
model leads back to itself.
-/

namespace ApiScaffold.RustCode

/-- The type of a primitive kind. -/
def primitiveType? : ModelKind → Option String
  | .any => some "serde_json::Value"
  | .boolean => some "bool"
  | .string => some "String"
  | .byte => some "u8"
  | .date => some "chrono::NaiveDate"
  | .time => some "chrono::NaiveTime"
  | .datetime => some "chrono::DateTime<chrono::Utc>"
  | .int => some "isize"
  | .int8 => some "i8"
  | .int16 => some "i16"
  | .int32 => some "i32"
  | .int64 => some "i64"
  | .uint => some "usize"
  | .uint8 => some "u8"
  | .uint16 => some "u16"
  | .uint32 => some "u32"
  | .uint64 => some "u64"
  | .float32 => some "f32"
  | .float64 => some "f64"
  | .array | .map | .struct | .enum | .iterator | .reference => none

mutual

/-- The type of a model, given those of references. -/
def typeWith (expand : Option String → Outcome String) : Model → Outcome String
  | ⟨kind, element, _, name, _⟩ =>
      match primitiveType? kind with
      | some type => .ok type
      | none =>
          match kind with
          | .array => do
              let (_, item) ← elementType expand element
              pure ("Vec<" ++ item ++ ">")
          | .map => do
              let (_, item) ← elementType expand element
              pure ("std::collections::HashMap<String, " ++ item ++ ">")
          | .iterator => do
              let (isByte, item) ← elementType expand element
              pure (if isByte then "web::Payload" else "Box<dyn Iterator<Item = " ++ item ++ ">>")
          | .reference => expand name
          | kind => .error (.generation (.anonymousModel kind) (some "rust types") none)
termination_by structural model => model

/-- The type of an element, and whether it is a byte. -/
def elementType (expand : Option String → Outcome String) :
    Option Model → Outcome (Bool × String)
  | none => .error (.fault (.missingPart "kind"))
  | some element => do
      pure (decide (element.kind = .byte), ← typeWith expand element)
termination_by structural element => element

end

/-- The type of a reference, written out in at most `steps` steps. -/
def referenceType (service : Service) : Nat → Option String → Outcome String
  | 0, _ => .error (.fault .tooDeep)
  | steps + 1, name => do
      let target ← service.model name
      if target.isStruct then pure (Naming.typeName (name.getD ""))
      else typeWith (referenceType service steps) target

/-- The type of a model. -/
def renderType (service : Service) (model : Model) : Outcome String :=
  typeWith (referenceType service (service.models.length + 1)) model

end ApiScaffold.RustCode
