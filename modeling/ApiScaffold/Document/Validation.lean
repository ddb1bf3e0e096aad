import ApiScaffold.Document.Basic
import ApiScaffold.Document.Shape

/-!
# Documents from decoded data

Every object of a document has a check that reads its fields in a fixed order and
collects their issues.  Fields that are not listed are ignored.

Schemas can only be nested up to a limit.  The check of an object gets the number of
levels that are left for schemas, its `room`.
-/

namespace ApiScaffold

/-- The names under which a pointer may be given. -/
def refNames : List String := ["$ref", "ref"]

/-- The names under which a schema may be given. -/
def schemaNames : List String := ["schema", "schema_"]

/-- A basic type of data. -/
def DataType.ofDecoded (decoded : Decoded) : Check DataType :=
  match decoded.form with
  | .scalar (.text name) =>
      match DataType.ofName? name with
      | some type => .ok type
      | none => Check.issue (if Text.hasHalf name then .notUnicode else .notListed)
  | _ => Check.issue .notListed

namespace SchemaObject

/-- How many schemas can be nested, the outermost one included. -/
def nestingLimit : Nat := 255

/-- How many schemas can be nested in an object that is no schema. -/
def nestingLimitWithin : Nat := nestingLimit - 1

/-- Whether a value is one of the enclosing ones. -/
def isInside (enclosing : List Nat) (decoded : Decoded) : Bool :=
  match decoded.number? with
  | some number => enclosing.contains number
  | none => false

/-- What may be added to the properties of an object: a truth value or a schema.  If it is
neither, both say why. -/
def additional (schema : Decoded → Check SchemaObject) (decoded : Decoded) :
    Check (AdditionalProperties SchemaObject) :=
  let allowed := (Shape.truth decoded).below "bool"
  match allowed with
  | .ok allowed => .ok (.allowed allowed)
  | .error objection =>
      match (schema decoded).below "Schema" with
      | .ok schema => .ok (.schema schema)
      | .error other => .error (objection.join other)

/-- A schema inside the enclosing ones.  The number of schemas that can still be nested
bounds the depth, also for a schema that contains itself, of which the enclosing ones
would be found again. -/
def check (enclosing : List Nat) : Nat → Decoded → Check SchemaObject
  | 0, decoded => Check.issue (if isInside enclosing decoded then .insideItself else .tooDeep)
  | room + 1, decoded =>
      if isInside enclosing decoded then Check.issue .insideItself
      else
        let inner := check (decoded.number?.toList ++ enclosing) room
        decoded |> Shape.object fun pairs =>
          (.ok SchemaObject.mk : Check _)
            |> Check.part (Shape.optional refNames Shape.text pairs)
            |> Check.part (Shape.optional ["type"] DataType.ofDecoded pairs)
            |> Check.part (Shape.optional ["format"] Shape.text pairs)
            |> Check.part (Shape.optional ["items"] inner pairs)
            |> Check.part (Shape.optional ["properties"] (Shape.mapping inner) pairs)
            |> Check.part (Shape.optional ["additionalProperties"] (additional inner) pairs)
            |> Check.part (Shape.optional ["description"] Shape.text pairs)

/-- A schema in which a number of schemas can be nested. -/
def ofDecoded (room : Nat) : Decoded → Check SchemaObject :=
  check [] room

end SchemaObject

/-- The content of a media type. -/
def MediaTypeObject.ofDecoded (room : Nat) : Decoded → Check MediaTypeObject :=
  Shape.object fun pairs =>
    (.ok MediaTypeObject.mk : Check _)
      |> Check.part (Shape.optional schemaNames (SchemaObject.ofDecoded room) pairs)

/-- A header of a response. -/
def HeaderObject.ofDecoded (room : Nat) : Decoded → Check HeaderObject :=
  Shape.object fun pairs =>
    (.ok HeaderObject.mk : Check _)
      |> Check.part (Shape.optional refNames Shape.text pairs)
      |> Check.part (Shape.optional ["description"] Shape.text pairs)
      |> Check.part (Shape.flag "required" pairs)
      |> Check.part (Shape.optional schemaNames (SchemaObject.ofDecoded room) pairs)

/-- A parameter of an operation. -/
def ParameterObject.ofDecoded (room : Nat) : Decoded → Check ParameterObject :=
  Shape.object fun pairs =>
    (.ok ParameterObject.mk : Check _)
      |> Check.part (Shape.optional refNames Shape.text pairs)
      |> Check.part (Shape.optional ["name"] Shape.text pairs)
      |> Check.part (Shape.optional ["in", "in_"] Shape.text pairs)
      |> Check.part (Shape.optional ["description"] Shape.text pairs)
      |> Check.part (Shape.flag "required" pairs)
      |> Check.part (Shape.optional ["style"] Shape.text pairs)
      |> Check.part (Shape.optional schemaNames (SchemaObject.ofDecoded room) pairs)

/-- The body of a request. -/
def RequestBodyObject.ofDecoded (room : Nat) : Decoded → Check RequestBodyObject :=
  Shape.object fun pairs =>
    (.ok RequestBodyObject.mk : Check _)
      |> Check.part (Shape.optional refNames Shape.text pairs)
      |> Check.part (Shape.optional ["description"] Shape.text pairs)
      |> Check.part
          (Shape.optional ["content"] (Shape.mapping (MediaTypeObject.ofDecoded room)) pairs)
      |> Check.part (Shape.flag "required" pairs)

/-- A response of an operation. -/
def ResponseObject.ofDecoded (room : Nat) : Decoded → Check ResponseObject :=
  Shape.object fun pairs =>
    (.ok ResponseObject.mk : Check _)
      |> Check.part (Shape.optional refNames Shape.text pairs)
      |> Check.part (Shape.optional ["description"] Shape.text pairs)
      |> Check.part (Shape.optional ["headers"] (Shape.mapping (HeaderObject.ofDecoded room)) pairs)
      |> Check.part
          (Shape.optional ["content"] (Shape.mapping (MediaTypeObject.ofDecoded room)) pairs)

/-- An operation. -/
def OperationObject.ofDecoded (room : Nat) : Decoded → Check OperationObject :=
  Shape.object fun pairs =>
    (.ok OperationObject.mk : Check _)
      |> Check.part (Shape.optional ["tags"] (Shape.list Shape.text) pairs)
      |> Check.part (Shape.optional ["summary"] Shape.text pairs)
      |> Check.part (Shape.optional ["description"] Shape.text pairs)
      |> Check.part (Shape.optional ["operationId"] Shape.text pairs)
      |> Check.part
          (Shape.optional ["parameters"] (Shape.list (ParameterObject.ofDecoded room)) pairs)
      |> Check.part (Shape.optional ["requestBody"] (RequestBodyObject.ofDecoded room) pairs)
      |> Check.part
          (Shape.optional ["responses"] (Shape.namedMapping (ResponseObject.ofDecoded room)) pairs)

/-- The declared operations among the fields of a path, in the canonical order of their
methods. -/
def PathItemObject.operationsOf (room : Nat) (pairs : List (Scalar × Decoded)) :
    Check (List (Method × OperationObject)) :=
  let checks := Method.all.map fun method =>
    (Shape.optional [method.name] (OperationObject.ofDecoded room) pairs).map fun operation? =>
      operation?.map fun operation => (method, operation)
  (Check.all checks).map fun operations => operations.filterMap id

/-- What is declared for one path.  Its operations and parameters take one of the levels. -/
def PathItemObject.ofDecoded (room : Nat) : Decoded → Check PathItemObject :=
  let room := room - 1
  Shape.object fun pairs =>
    (.ok PathItemObject.mk : Check _)
      |> Check.part (Shape.optional ["summary"] Shape.text pairs)
      |> Check.part (Shape.optional ["description"] Shape.text pairs)
      |> Check.part (PathItemObject.operationsOf room pairs)
      |> Check.part
          (Shape.optional ["parameters"] (Shape.list (ParameterObject.ofDecoded room)) pairs)

/-- The definitions that pointers lead to.  The headers take one of the levels. -/
def ComponentsObject.ofDecoded (room : Nat) : Decoded → Check ComponentsObject :=
  Shape.object fun pairs =>
    (.ok ComponentsObject.mk : Check _)
      |> Check.part (Shape.optional ["schemas"] (Shape.mapping (SchemaObject.ofDecoded room)) pairs)
      |> Check.part
          (Shape.optional ["responses"] (Shape.mapping (ResponseObject.ofDecoded room)) pairs)
      |> Check.part
          (Shape.optional ["parameters"] (Shape.mapping (ParameterObject.ofDecoded room)) pairs)
      |> Check.part
          (Shape.optional ["requestBodies"]
            (Shape.mapping (RequestBodyObject.ofDecoded room)) pairs)
      |> Check.part
          (Shape.optional ["headers"] (Shape.mapping (HeaderObject.ofDecoded (room - 1))) pairs)

/-- What a document says about itself. -/
def InfoObject.ofDecoded : Decoded → Check InfoObject :=
  Shape.object fun pairs =>
    (.ok InfoObject.mk : Check _)
      |> Check.part (Shape.optional ["title"] Shape.text pairs)
      |> Check.part (Shape.optional ["version"] Shape.text pairs)
      |> Check.part (Shape.optional ["description"] Shape.text pairs)

/-- The paths among the fields of a document; without the field there are none. -/
def Document.pathsOf (room : Nat) (pairs : List (Scalar × Decoded)) :
    Check (List (String × PathItemObject)) :=
  match Value.findText pairs "paths" with
  | none => .ok []
  | some value => Check.below "paths" (Shape.namedMapping (PathItemObject.ofDecoded room) value)

/-- A document. -/
def Document.ofDecoded : Decoded → Check Document :=
  let room := SchemaObject.nestingLimitWithin
  Shape.object fun pairs =>
    (.ok Document.mk : Check _)
      |> Check.part (Shape.required "openapi" Shape.text pairs)
      |> Check.part (Shape.optional ["info"] InfoObject.ofDecoded pairs)
      |> Check.part (Document.pathsOf room pairs)
      |> Check.part (Shape.optional ["components"] (ComponentsObject.ofDecoded room) pairs)

end ApiScaffold
