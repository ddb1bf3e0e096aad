import ApiScaffold.Proofs.Model.Shaped

/-!
# The nodes of a model

`Model.nodes` lists a model and all models inside it, each before its parts.  A node is regular
if it has the parts that its kind calls for and no others, and if bytes are in it as the element
of an array only.  A model is regular throughout if all its nodes are, and if it is no byte
itself.
-/

namespace ApiScaffold.Model

mutual

/-- A model and all models inside it; each comes before its parts. -/
def nodes : Model → List Model
  | ⟨kind, element, properties, name, description⟩ =>
      ⟨kind, element, properties, name, description⟩ ::
        (elementNodes element ++ propertyNodes properties)
termination_by structural model => model

/-- The nodes of an element. -/
def elementNodes : Option Model → List Model
  | none => []
  | some element => element.nodes
termination_by structural element => element

/-- The nodes of properties. -/
def propertyNodes : List (String × Model) → List Model
  | [] => []
  | (_, property) :: rest => property.nodes ++ propertyNodes rest
termination_by structural properties => properties

end

theorem propertyNodes_eq_flatMap (properties : List (String × Model)) :
    propertyNodes properties = properties.flatMap fun property => property.2.nodes := by
  induction properties with
  | nil => rfl
  | cons property rest ih => rw [propertyNodes, List.flatMap_cons, ih]

@[simp]
theorem nodes_ofKind (kind : ModelKind) (description : Option String) :
    (ofKind kind description).nodes = [ofKind kind description] := by
  simp [ofKind, nodes, elementNodes, propertyNodes]

@[simp]
theorem nodes_array (element : Model) (description : Option String) :
    (array element description).nodes = array element description :: element.nodes := by
  simp [array, nodes, elementNodes, propertyNodes]

@[simp]
theorem nodes_map (element : Model) (description : Option String) :
    (map element description).nodes = map element description :: element.nodes := by
  simp [map, nodes, elementNodes, propertyNodes]

@[simp]
theorem nodes_struct (properties : List (String × Model)) (description : Option String) :
    (struct properties description).nodes =
      struct properties description :: properties.flatMap fun property => property.2.nodes := by
  simp [struct, nodes, elementNodes, propertyNodes_eq_flatMap]

@[simp]
theorem nodes_reference (name : String) : (reference name).nodes = [reference name] := by
  simp [reference, nodes, elementNodes, propertyNodes]

/-- The names of the properties of a struct. -/
def fieldNames? (model : Model) : Option (List String) :=
  if model.isStruct then some (Entries.keys model.properties) else none

theorem fieldNames?_ofKind {kind : ModelKind} (noStruct : kind ≠ .struct)
    (description : Option String) : (ofKind kind description).fieldNames? = none := by
  simp [fieldNames?, noStruct]

@[simp]
theorem fieldNames?_array (element : Model) (description : Option String) :
    (array element description).fieldNames? = none := rfl

@[simp]
theorem fieldNames?_map (element : Model) (description : Option String) :
    (map element description).fieldNames? = none := rfl

@[simp]
theorem fieldNames?_struct (properties : List (String × Model)) (description : Option String) :
    (struct properties description).fieldNames? = some (Entries.keys properties) := rfl

@[simp]
theorem fieldNames?_reference (name : String) : (reference name).fieldNames? = none := rfl

/-- A node with exactly the parts that its kind calls for, and bytes in no other part than the
element of an array. -/
structure Regular (node : Model) : Prop where
  element : node.element.isSome = true ↔ node.kind = .array ∨ node.kind = .map
  properties : node.properties ≠ [] → node.kind = .struct
  name : node.name.isSome = true ↔ node.kind = .reference
  noEnum : node.kind ≠ .enum
  noIterator : node.kind ≠ .iterator
  byteElement : ∀ element ∈ node.element, element.kind = .byte → node.kind = .array
  byteProperty : ∀ property ∈ node.properties, property.2.kind ≠ .byte

theorem regular_ofKind {kind : ModelKind} (primitive : kind.isPrimitive = true)
    (description : Option String) : (ofKind kind description).Regular := by
  have noArray : kind ≠ .array := ModelKind.ne_of_isPrimitive primitive rfl
  have noMap : kind ≠ .map := ModelKind.ne_of_isPrimitive primitive rfl
  have noReference : kind ≠ .reference := ModelKind.ne_of_isPrimitive primitive rfl
  have noEnum : kind ≠ .enum := ModelKind.ne_of_isPrimitive primitive rfl
  have noIterator : kind ≠ .iterator := ModelKind.ne_of_isPrimitive primitive rfl
  constructor <;> simp [ofKind, noArray, noMap, noReference, noEnum, noIterator]

theorem regular_array (element : Model) (description : Option String) :
    (array element description).Regular := by
  constructor <;> simp [array]

theorem regular_map {element : Model} (noByte : element.kind ≠ .byte)
    (description : Option String) : (map element description).Regular := by
  constructor <;> simp [map, noByte]

theorem regular_struct {properties : List (String × Model)}
    (noByte : ∀ property ∈ properties, property.2.kind ≠ .byte) (description : Option String) :
    (struct properties description).Regular := by
  constructor
  case byteProperty => exact noByte
  all_goals simp [struct]

theorem regular_reference (name : String) : (reference name).Regular := by
  constructor <;> simp [reference]

/-- A model with regular nodes only, which is no byte itself. -/
structure RegularThroughout (model : Model) : Prop where
  noByte : model.kind ≠ .byte
  nodes : ∀ node ∈ model.nodes, node.Regular

theorem regularThroughout_ofKind {kind : ModelKind} (primitive : kind.isPrimitive = true)
    (noByte : kind ≠ .byte) (description : Option String) :
    (ofKind kind description).RegularThroughout where
  noByte := noByte
  nodes := by simpa using regular_ofKind primitive description

theorem regularThroughout_array {element : Model} (each : ∀ node ∈ element.nodes, node.Regular)
    (description : Option String) : (array element description).RegularThroughout where
  noByte := by simp [array]
  nodes := by simpa using ⟨regular_array element description, each⟩

theorem RegularThroughout.map {element : Model} (regular : element.RegularThroughout)
    (description : Option String) : (map element description).RegularThroughout where
  noByte := by simp [Model.map]
  nodes := by simpa using ⟨regular_map regular.noByte description, regular.nodes⟩

theorem regularThroughout_struct {properties : List (String × Model)}
    (each : ∀ property ∈ properties, property.2.RegularThroughout)
    (description : Option String) : (struct properties description).RegularThroughout where
  noByte := by simp [struct]
  nodes := by
    intro node member
    rw [nodes_struct] at member
    rcases List.mem_cons.mp member with rfl | inside
    · exact regular_struct (fun property isProperty => (each property isProperty).noByte) _
    · rcases List.mem_flatMap.mp inside with ⟨property, isProperty, isNode⟩
      exact (each property isProperty).nodes node isNode

theorem regularThroughout_reference (name : String) : (reference name).RegularThroughout where
  noByte := by simp [reference]
  nodes := by simpa using regular_reference name

end ApiScaffold.Model
