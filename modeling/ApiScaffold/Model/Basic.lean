import ApiScaffold.Collection.Entries
import ApiScaffold.Failure

/-!
# Models

A model is a type of data in the generated code.  Arrays, maps and iterators have an
element, structs have properties, and a reference has the name of another model.
A node of a model keeps all these parts, so that models that were put together by
hand may also lack a part that their kind calls for.

Descriptions are comments: two models that differ in nothing else are the same.
-/

namespace ApiScaffold

/-- A type of data. -/
structure Model where
  kind : ModelKind
  /-- What an array, a map or an iterator is made of. -/
  element : Option Model
  /-- The properties of a struct, in the order of their declaration. -/
  properties : List (String × Model)
  /-- The name that a reference refers to. -/
  name : Option String
  description : Option String

namespace Model

instance : Inhabited Model :=
  ⟨⟨.any, none, [], none, none⟩⟩

/-- A model without parts. -/
def ofKind (kind : ModelKind) (description : Option String) : Model :=
  ⟨kind, none, [], none, description⟩

/-- A model of a primitive kind. -/
def primitive (kind : ModelKind) (description : Option String) : Outcome Model :=
  if kind.isPrimitive then .ok (ofKind kind description)
  else .error (.fault (.invalidValue (kind.name ++ " is not a primitive kind")))

/-- A byte. -/
def byte : Model :=
  ofKind .byte none

/-- An array of elements. -/
def array (element : Model) (description : Option String) : Model :=
  ⟨.array, some element, [], none, description⟩

/-- A map from texts to elements. -/
def map (element : Model) (description : Option String) : Model :=
  ⟨.map, some element, [], none, description⟩

/-- Elements that are read one after the other. -/
def iterator (element : Model) : Model :=
  ⟨.iterator, some element, [], none, none⟩

/-- The model of a body that is read piece by piece. -/
def byteStream : Model :=
  iterator byte

/-- A struct with properties. -/
def struct (properties : List (String × Model)) (description : Option String) : Model :=
  ⟨.struct, none, properties, none, description⟩

/-- The model with a name. -/
def reference (name : String) : Model :=
  ⟨.reference, none, [], some name, none⟩

/-- Whether the kind of a model is primitive. -/
def isPrimitive (model : Model) : Bool :=
  model.kind.isPrimitive

/-- Whether a model is a struct. -/
def isStruct (model : Model) : Bool :=
  model.kind = .struct

/-- Whether a model refers to another one by its name. -/
def isReference (model : Model) : Bool :=
  model.kind = .reference

/-- Whether a body of this model is read as it is: a text or an array of bytes. -/
def isRawPayload (model : Model) : Bool :=
  match model.kind, model.element with
  | .string, _ => true
  | .array, some element => element.kind = .byte
  | _, _ => false

/-- The properties of a struct under their names. -/
def fields (model : Model) : Entries String Model :=
  Entries.ofList model.properties

mutual

/-- The names of all references inside a model. -/
def references : Model → List (Option String)
  | ⟨kind, element, properties, name, _⟩ =>
      (if kind = .reference then [name] else []) ++
        elementReferences element ++ propertyReferences properties
termination_by structural model => model

/-- The names of the references inside an element. -/
def elementReferences : Option Model → List (Option String)
  | none => []
  | some element => element.references
termination_by structural element => element

/-- The names of the references inside properties. -/
def propertyReferences : List (String × Model) → List (Option String)
  | [] => []
  | (_, property) :: rest => property.references ++ propertyReferences rest
termination_by structural properties => properties

end

mutual

/-- The names of the references that are not inside an array, a map or an iterator. -/
def directReferences : Model → List (Option String)
  | ⟨kind, _, properties, name, _⟩ =>
      match kind with
      | .reference => [name]
      | .struct => directPropertyReferences properties
      | _ => []
termination_by structural model => model

/-- The direct references of properties. -/
def directPropertyReferences : List (String × Model) → List (Option String)
  | [] => []
  | (_, property) :: rest => property.directReferences ++ directPropertyReferences rest
termination_by structural properties => properties

end

mutual

/-- A model without any description. -/
def bare : Model → Model
  | ⟨kind, element, properties, name, _⟩ =>
      ⟨kind, bareElement element, bareProperties properties, name, none⟩
termination_by structural model => model

/-- An element without any description. -/
def bareElement : Option Model → Option Model
  | none => none
  | some element => some element.bare
termination_by structural element => element

/-- Properties without any description. -/
def bareProperties : List (String × Model) → List (String × Model)
  | [] => []
  | (name, property) :: rest => (name, property.bare) :: bareProperties rest
termination_by structural properties => properties

end

mutual

/-- Whether two models are the same, descriptions apart. -/
def same : Model → Model → Bool
  | ⟨kind, element, properties, name, _⟩, other =>
      kind = other.kind && name = other.name && sameElement element other.element &&
        sameProperties properties other.properties
termination_by structural model => model

/-- Whether two elements are the same. -/
def sameElement : Option Model → Option Model → Bool
  | none, none => true
  | some element, some other => element.same other
  | _, _ => false
termination_by structural element => element

/-- Whether the same properties are listed in the same order. -/
def sameProperties : List (String × Model) → List (String × Model) → Bool
  | [], [] => true
  | (name, property) :: rest, (otherName, other) :: others =>
      name = otherName && property.same other && sameProperties rest others
  | _, _ => false
termination_by structural properties => properties

end

mutual

/-- Models are the same exactly if nothing but descriptions tells them apart. -/
theorem same_iff_bare_eq (model other : Model) :
    model.same other = true ↔ model.bare = other.bare := by
  obtain ⟨kind, element, properties, name, description⟩ := model
  obtain ⟨otherKind, otherElement, otherProperties, otherName, otherDescription⟩ := other
  simp only [same, bare, Bool.and_eq_true, decide_eq_true_eq, Model.mk.injEq]
  rw [sameElement_iff element otherElement, sameProperties_iff properties otherProperties]
  constructor
  · rintro ⟨⟨⟨kinds, names⟩, elements⟩, props⟩
    exact ⟨kinds, elements, props, names, trivial⟩
  · rintro ⟨kinds, elements, props, names, _⟩
    exact ⟨⟨⟨kinds, names⟩, elements⟩, props⟩
termination_by structural model

/-- Elements are the same exactly if nothing but descriptions tells them apart. -/
theorem sameElement_iff (element other : Option Model) :
    sameElement element other = true ↔ bareElement element = bareElement other := by
  match element, other with
  | none, none => simp [sameElement, bareElement]
  | none, some _ => simp [sameElement, bareElement]
  | some _, none => simp [sameElement, bareElement]
  | some element, some other =>
      simp only [sameElement, bareElement, Option.some.injEq]
      exact same_iff_bare_eq element other
termination_by structural element

/-- Properties are the same exactly if nothing but descriptions tells them apart. -/
theorem sameProperties_iff (properties others : List (String × Model)) :
    sameProperties properties others = true ↔
      bareProperties properties = bareProperties others := by
  match properties, others with
  | [], [] => simp [sameProperties, bareProperties]
  | [], (_, _) :: _ => simp [sameProperties, bareProperties]
  | (_, _) :: _, [] => simp [sameProperties, bareProperties]
  | (name, property) :: rest, (otherName, other) :: others =>
      simp only [sameProperties, bareProperties, Bool.and_eq_true, decide_eq_true_eq,
        List.cons.injEq, Prod.mk.injEq]
      rw [same_iff_bare_eq property other, sameProperties_iff rest others]
termination_by structural properties

end

end Model

end ApiScaffold
