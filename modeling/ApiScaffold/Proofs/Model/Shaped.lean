import ApiScaffold.Model.Basic
import Mathlib.Data.List.Basic

/-!
# Models with the parts that their kinds call for

A node of a model could lack the part that its kind calls for.  The models that come
from documents do not: they are primitive, or arrays or maps of an element, or
structs of properties, or references to a name.

A plain model has no struct in it, so it can be spelled in place.  A flat model is
plain or a struct of plain properties, which is what a definition is made of.
-/

namespace ApiScaffold

theorem ModelKind.ne_of_isPrimitive {kind other : ModelKind}
    (primitive : kind.isPrimitive = true) (composite : other.isPrimitive = false) :
    kind ≠ other := by
  rintro rfl
  simp [primitive] at composite

namespace Model

/-- A model with exactly the parts that its kind calls for. -/
inductive Shaped : Model → Prop
  | basic {kind : ModelKind} (primitive : kind.isPrimitive = true) (description : Option String) :
      Shaped (ofKind kind description)
  | array {element : Model} (shaped : Shaped element) (description : Option String) :
      Shaped (array element description)
  | map {element : Model} (shaped : Shaped element) (description : Option String) :
      Shaped (map element description)
  | struct {properties : List (String × Model)}
      (shaped : ∀ property ∈ properties, Shaped property.2) (description : Option String) :
      Shaped (struct properties description)
  | reference (name : String) (description : Option String) :
      Shaped ⟨.reference, none, [], some name, description⟩

/-- A shaped model without a struct in it. -/
inductive Plain : Model → Prop
  | basic {kind : ModelKind} (primitive : kind.isPrimitive = true) (description : Option String) :
      Plain (ofKind kind description)
  | array {element : Model} (plain : Plain element) (description : Option String) :
      Plain (array element description)
  | map {element : Model} (plain : Plain element) (description : Option String) :
      Plain (map element description)
  | reference (name : String) (description : Option String) :
      Plain ⟨.reference, none, [], some name, description⟩

/-- A plain model, or a struct of plain properties. -/
inductive Flat : Model → Prop
  | plain {model : Model} (plain : Plain model) : Flat model
  | struct {properties : List (String × Model)}
      (plain : ∀ property ∈ properties, Plain property.2) (description : Option String) :
      Flat (struct properties description)

theorem Plain.shaped {model : Model} (plain : model.Plain) : model.Shaped := by
  induction plain with
  | basic primitive description => exact .basic primitive description
  | array _ description ih => exact .array ih description
  | map _ description ih => exact .map ih description
  | reference name description => exact .reference name description

theorem Flat.shaped {model : Model} (flat : model.Flat) : model.Shaped := by
  cases flat with
  | plain plain => exact plain.shaped
  | struct plain description =>
      exact .struct (fun property member => (plain property member).shaped) description

/-! ## Structs -/

@[simp]
theorem isStruct_ofKind (kind : ModelKind) (description : Option String) :
    (ofKind kind description).isStruct = decide (kind = .struct) := rfl

@[simp]
theorem isStruct_array (element : Model) (description : Option String) :
    (array element description).isStruct = false := rfl

@[simp]
theorem isStruct_map (element : Model) (description : Option String) :
    (map element description).isStruct = false := rfl

@[simp]
theorem isStruct_struct (properties : List (String × Model)) (description : Option String) :
    (struct properties description).isStruct = true := rfl

@[simp]
theorem isStruct_reference (name : String) : (reference name).isStruct = false := rfl

/-- A plain model is no struct. -/
theorem Plain.isStruct_eq_false {model : Model} (plain : model.Plain) :
    model.isStruct = false := by
  cases plain with
  | basic primitive => simpa using ModelKind.ne_of_isPrimitive primitive rfl
  | array => rfl
  | map => rfl
  | reference => rfl

/-- A flat model that is no struct is plain. -/
theorem Flat.plain_of_isStruct_eq_false {model : Model} (flat : model.Flat)
    (noStruct : model.isStruct = false) : model.Plain := by
  cases flat with
  | plain plain => exact plain
  | struct => simp at noStruct

/-- The properties of a flat model are plain. -/
theorem Flat.plain_of_mem_properties {model : Model} (flat : model.Flat)
    {property : String × Model} (member : property ∈ model.properties) : property.2.Plain := by
  cases flat with
  | plain plain => cases plain <;> cases member
  | struct plain => exact plain property member

/-- A shaped struct has properties and nothing else. -/
theorem Shaped.exists_struct {model : Model} (shaped : model.Shaped)
    (isStruct : model.isStruct = true) :
    ∃ properties description, model = Model.struct properties description ∧
      ∀ property ∈ properties, property.2.Shaped := by
  cases shaped with
  | basic primitive =>
      simp only [isStruct_ofKind, decide_eq_true_eq] at isStruct
      exact absurd isStruct (ModelKind.ne_of_isPrimitive primitive rfl)
  | array => simp at isStruct
  | map => simp at isStruct
  | struct shaped description => exact ⟨_, description, rfl, shaped⟩
  | reference => cases isStruct

/-! ## References -/

theorem propertyReferences_eq_flatMap (properties : List (String × Model)) :
    propertyReferences properties = properties.flatMap fun property => property.2.references := by
  induction properties with
  | nil => rfl
  | cons property rest ih => rw [propertyReferences, List.flatMap_cons, ih]

theorem references_ofKind {kind : ModelKind} (primitive : kind.isPrimitive = true)
    (description : Option String) : (ofKind kind description).references = [] := by
  have noReference : kind ≠ .reference := ModelKind.ne_of_isPrimitive primitive rfl
  simp [ofKind, references, elementReferences, propertyReferences, noReference]

@[simp]
theorem references_array (element : Model) (description : Option String) :
    (array element description).references = element.references := by
  simp [array, references, elementReferences, propertyReferences]

@[simp]
theorem references_map (element : Model) (description : Option String) :
    (map element description).references = element.references := by
  simp [map, references, elementReferences, propertyReferences]

@[simp]
theorem references_struct (properties : List (String × Model)) (description : Option String) :
    (struct properties description).references =
      properties.flatMap fun property => property.2.references := by
  simp [struct, references, elementReferences, propertyReferences_eq_flatMap]

@[simp]
theorem references_reference (name : String) : (reference name).references = [some name] := by
  simp [reference, references, elementReferences, propertyReferences]

@[simp]
theorem isReference_ofKind (kind : ModelKind) (description : Option String) :
    (ofKind kind description).isReference = decide (kind = .reference) := rfl

@[simp]
theorem isReference_array (element : Model) (description : Option String) :
    (array element description).isReference = false := rfl

@[simp]
theorem isReference_map (element : Model) (description : Option String) :
    (map element description).isReference = false := rfl

@[simp]
theorem isReference_struct (properties : List (String × Model)) (description : Option String) :
    (struct properties description).isReference = false := rfl

/-- A shaped reference has a name and nothing else. -/
theorem Shaped.exists_reference {model : Model} (shaped : model.Shaped)
    (isReference : model.isReference = true) :
    ∃ name description, model = ⟨.reference, none, [], some name, description⟩ := by
  cases shaped with
  | basic primitive =>
      simp only [isReference_ofKind, decide_eq_true_eq] at isReference
      exact absurd isReference (ModelKind.ne_of_isPrimitive primitive rfl)
  | array => simp at isReference
  | map => simp at isReference
  | struct => simp at isReference
  | reference name description => exact ⟨name, description, rfl⟩

/-- What a property refers to, its struct refers to. -/
theorem mem_references_of_mem_properties {model : Model} {property : String × Model}
    (member : property ∈ model.properties) {name : Option String}
    (refers : name ∈ property.2.references) : name ∈ model.references := by
  obtain ⟨kind, element, properties, own, description⟩ := model
  rw [references, propertyReferences_eq_flatMap]
  exact List.mem_append_right _ (List.mem_flatMap.mpr ⟨property, member, refers⟩)

/-- Every reference inside a shaped model has a name. -/
theorem Shaped.exists_name {model : Model} (shaped : model.Shaped) {name : Option String}
    (refers : name ∈ model.references) : ∃ known, name = some known := by
  induction shaped with
  | basic primitive => simp [references_ofKind primitive] at refers
  | array _ _ ih => exact ih (by simpa using refers)
  | map _ _ ih => exact ih (by simpa using refers)
  | struct _ _ ih =>
      rw [references_struct] at refers
      obtain ⟨property, member, inside⟩ := List.mem_flatMap.mp refers
      exact ih property member inside
  | reference known _ =>
      exact ⟨known, by simpa [references, elementReferences, propertyReferences] using refers⟩

/-- All references inside a model are to some of these names. -/
def RefersWithin (names : String → Prop) (model : Model) : Prop :=
  ∀ name, some name ∈ model.references → names name

/-- All references inside a model name one of some models. -/
abbrev Resolved (models : Entries String Model) (model : Model) : Prop :=
  model.RefersWithin fun name => name ∈ models.keys

/-- All references inside a model name one of some models, or have a name of a source. -/
abbrev Sourced (source : String → Prop) (models : Entries String Model) (model : Model) : Prop :=
  model.RefersWithin fun name => source name ∨ name ∈ models.keys

variable {names : String → Prop}

theorem refersWithin_array (element : Model) (description : Option String) :
    (array element description).RefersWithin names ↔ element.RefersWithin names := by
  rw [RefersWithin, references_array, RefersWithin]

theorem refersWithin_map (element : Model) (description : Option String) :
    (map element description).RefersWithin names ↔ element.RefersWithin names := by
  rw [RefersWithin, references_map, RefersWithin]

theorem refersWithin_reference (name : String) (description : Option String) :
    (⟨.reference, none, [], some name, description⟩ : Model).RefersWithin names ↔ names name := by
  simp [RefersWithin, references, elementReferences, propertyReferences]

theorem refersWithin_struct (properties : List (String × Model)) (description : Option String) :
    (struct properties description).RefersWithin names ↔
      ∀ property ∈ properties, property.2.RefersWithin names := by
  rw [RefersWithin, references_struct]
  constructor
  · intro within property member name refers
    exact within name (List.mem_flatMap.mpr ⟨property, member, refers⟩)
  · intro within name refers
    obtain ⟨property, member, here⟩ := List.mem_flatMap.mp refers
    exact within property member name here

theorem RefersWithin.imp {wider : String → Prop} {model : Model}
    (within : model.RefersWithin names) (implies : ∀ name, names name → wider name) :
    model.RefersWithin wider :=
  fun name refers => implies name (within name refers)

/-- The properties of a model refer to nothing but what the model refers to. -/
theorem RefersWithin.of_mem_properties {model : Model} (within : model.RefersWithin names)
    {property : String × Model} (member : property ∈ model.properties) :
    property.2.RefersWithin names :=
  fun name refers => within name (mem_references_of_mem_properties member refers)

/-! ## Descriptions -/

/-- A model that is a primitive one but for its description is a primitive one. -/
theorem exists_eq_ofKind_of_bare_eq {model : Model} {kind : ModelKind}
    {description : Option String} (equal : model.bare = (ofKind kind description).bare) :
    ∃ other, model = ofKind kind other := by
  obtain ⟨ownKind, element, properties, name, own⟩ := model
  simp only [bare, ofKind, bareElement, bareProperties, Model.mk.injEq] at equal
  obtain ⟨rfl, noElement, noProperties, rfl, _⟩ := equal
  cases element with
  | some element => simp [bareElement] at noElement
  | none =>
      cases properties with
      | cons property rest => simp [bareProperties] at noProperties
      | nil => exact ⟨own, rfl⟩

/-- A model that is an array or a map but for its description is one, of an element that
differs in descriptions only. -/
theorem exists_element_of_bare_eq {model element : Model} {kind : ModelKind}
    {description : Option String}
    (equal : model.bare = (⟨kind, some element, [], none, description⟩ : Model).bare) :
    ∃ other own, model = ⟨kind, some other, [], none, own⟩ ∧ other.bare = element.bare := by
  obtain ⟨ownKind, ownElement, properties, name, own⟩ := model
  simp only [bare, bareElement, bareProperties, Model.mk.injEq] at equal
  obtain ⟨rfl, sameElement, noProperties, rfl, _⟩ := equal
  cases ownElement with
  | none => simp [bareElement] at sameElement
  | some other =>
      cases properties with
      | cons property rest => simp [bareProperties] at noProperties
      | nil =>
          simp only [bareElement, Option.some.injEq] at sameElement
          exact ⟨other, own, rfl, sameElement⟩

/-- A model that is a struct but for descriptions is a struct. -/
theorem exists_properties_of_bare_eq {model : Model} {properties : List (String × Model)}
    {description : Option String} (equal : model.bare = (struct properties description).bare) :
    ∃ others own, model = struct others own ∧
      bareProperties others = bareProperties properties := by
  obtain ⟨ownKind, element, others, name, own⟩ := model
  simp only [bare, struct, bareElement, Model.mk.injEq] at equal
  obtain ⟨rfl, noElement, sameProperties, rfl, _⟩ := equal
  cases element with
  | some element => simp [bareElement] at noElement
  | none => exact ⟨others, own, rfl, sameProperties⟩

/-- A model that is a reference but for its description is the reference, perhaps with a
description. -/
theorem eq_reference_of_bare_eq {model : Model} {name : String}
    (equal : model.bare = (reference name).bare) :
    ∃ own, model = ⟨.reference, none, [], some name, own⟩ := by
  obtain ⟨ownKind, element, properties, other, own⟩ := model
  simp only [bare, reference, bareElement, bareProperties, Model.mk.injEq] at equal
  obtain ⟨rfl, noElement, noProperties, rfl, _⟩ := equal
  cases element with
  | some element => simp [bareElement] at noElement
  | none =>
      cases properties with
      | cons property rest => simp [bareProperties] at noProperties
      | nil => exact ⟨own, rfl⟩

end Model

end ApiScaffold
