import ApiScaffold.Proofs.Model.Mapping

/-!
# The pointers of a schema

Mapping a schema visits the schema itself, the items of arrays, the properties of
objects, and what may be added to objects without properties.  It stops at pointers.
`SchemaObject.pointers` lists the pointers that are met, and the references of the
model are their names, in the same order.
-/

namespace ApiScaffold.SchemaObject

mutual

/-- The pointers that are met when a schema is mapped, in order. -/
def pointers : SchemaObject → List String
  | ⟨ref, type, _, items, properties, additional, _⟩ =>
      match ref, type with
      | some pointer, _ => [pointer]
      | none, some .array => itemPointers items
      | none, some .object =>
          if hasProperties properties then propertyPointers properties
          else additionalPointers additional
      | none, _ => []
termination_by structural schema => schema

/-- The pointers of the items of an array. -/
def itemPointers : Option SchemaObject → List String
  | none => []
  | some item => item.pointers
termination_by structural items => items

/-- The pointers of declared properties. -/
def propertyPointers : Option (List (String × SchemaObject)) → List String
  | none => []
  | some properties => entryPointers properties
termination_by structural properties => properties

/-- The pointers of named schemas. -/
def entryPointers : List (String × SchemaObject) → List String
  | [] => []
  | (_, schema) :: rest => schema.pointers ++ entryPointers rest
termination_by structural entries => entries

/-- The pointers of what may be added to an object. -/
def additionalPointers : Option (AdditionalProperties SchemaObject) → List String
  | none => []
  | some (.allowed _) => []
  | some (.schema schema) => schema.pointers
termination_by structural additional => additional

end

theorem pointers_eq (schema : SchemaObject) :
    schema.pointers =
      match schema.ref, schema.type with
      | some pointer, _ => [pointer]
      | none, some .array => itemPointers schema.items
      | none, some .object =>
          if hasProperties schema.properties then propertyPointers schema.properties
          else additionalPointers schema.additionalProperties
      | none, _ => [] := by
  obtain ⟨ref, type, format, items, properties, additional, description⟩ := schema
  rw [pointers.eq_def]

/-- The reference to the name of a pointer. -/
def referenceTo (pointer : String) : Option String :=
  some (pointerName pointer)

theorem flatMap_references_eq {properties : List (String × SchemaObject)}
    {models : List (String × Model)}
    (each : Entries.Matches (fun schema model =>
      model.references = schema.pointers.map referenceTo) properties models) :
    (models.flatMap fun property => property.2.references) =
      (entryPointers properties).map referenceTo := by
  induction each with
  | nil => rfl
  | @cons left right lefts rights heads _ ih =>
      obtain ⟨name, schema⟩ := left
      rw [List.flatMap_cons, ih, heads.2, entryPointers, List.map_append]

theorem references_ofDataType {type : DataType} (noArray : type ≠ .array)
    (noObject : type ≠ .object) (format description : Option String) :
    (Model.ofDataType type format description).references = [] := by
  unfold Model.ofDataType
  split
  · rw [Model.references_array]
    exact Model.references_ofKind rfl none
  · exact Model.references_ofKind (DataType.isPrimitive_kind noArray noObject _) description

theorem isReference_ofDataType {type : DataType} (noArray : type ≠ .array)
    (noObject : type ≠ .object) (format description : Option String) :
    (Model.ofDataType type format description).isReference = false := by
  unfold Model.ofDataType
  split
  · rfl
  · rw [Model.isReference_ofKind]
    exact decide_eq_false
      (ModelKind.ne_of_isPrimitive (DataType.isPrimitive_kind noArray noObject _) rfl)

/-- Only a schema that is a pointer becomes a reference. -/
theorem Maps.exists_pointer {schema : SchemaObject} {model : Model} (maps : schema.Maps model)
    (isReference : model.isReference = true) :
    ∃ pointer, schema.ref = some pointer ∧ model = .reference (pointerName pointer) := by
  cases maps with
  | pointer ref => exact ⟨_, ref, rfl⟩
  | basic _ _ noArray noObject =>
      rw [isReference_ofDataType noArray noObject] at isReference
      cases isReference
  | _ => cases isReference

/-- The references of the model of a schema are the names of its pointers. -/
theorem Maps.references_eq {schema : SchemaObject} {model : Model} (maps : schema.Maps model) :
    model.references = schema.pointers.map referenceTo := by
  induction maps with
  | pointer ref => rw [pointers_eq, ref, Model.references_reference]; rfl
  | untyped ref type => rw [pointers_eq, ref, type, Model.references_ofKind rfl]; rfl
  | array ref type items _ ih =>
      rw [pointers_eq, ref, type, items, Model.references_array, ih]
      rfl
  | @object schema properties models ref type declared filled names _ ih =>
      have full : hasProperties schema.properties = true := by
        rw [declared]
        cases properties with
        | nil => exact absurd rfl filled
        | cons => rfl
      rw [pointers_eq, ref, type, Model.references_struct]
      simp only [full, if_true]
      rw [declared, propertyPointers]
      exact flatMap_references_eq (Entries.matches_iff_keys_and_zip.mpr ⟨names, ih⟩)
  | dictionary ref type empty additional _ ih =>
      rw [pointers_eq, ref, type, Model.references_map, ih]
      simp only [empty, Bool.false_eq_true, if_false]
      rw [additional, additionalPointers]
  | openObject ref type empty additional =>
      rw [pointers_eq, ref, type, Model.references_map, Model.references_ofKind rfl]
      simp only [empty, Bool.false_eq_true, if_false]
      rw [additional]
      rfl
  | closedObject ref type empty additional =>
      rw [pointers_eq, ref, type, Model.references_struct]
      simp only [empty, Bool.false_eq_true, if_false]
      rcases additional with absent | forbidden
      · rw [absent]
        rfl
      · rw [forbidden]
        rfl
  | @basic schema type ref known noArray noObject =>
      rw [pointers_eq, ref, known, references_ofDataType noArray noObject]
      cases type <;> first | rfl | contradiction

/-- A model refers to exactly the names of the pointers of its schema. -/
theorem Maps.mem_references_iff {schema : SchemaObject} {model : Model}
    (maps : schema.Maps model) {name : String} :
    some name ∈ model.references ↔ ∃ pointer ∈ schema.pointers, pointerName pointer = name := by
  rw [maps.references_eq, List.mem_map]
  simp [referenceTo]

/-- A model refers to nothing but certain names exactly if the pointers of its schema lead to
nothing else. -/
theorem Maps.refersWithin_iff {schema : SchemaObject} {model : Model} (maps : schema.Maps model)
    {names : String → Prop} :
    model.RefersWithin names ↔ ∀ pointer ∈ schema.pointers, names (pointerName pointer) := by
  simp only [Model.RefersWithin, maps.mem_references_iff]
  constructor
  · intro within pointer member
    exact within _ ⟨pointer, member, rfl⟩
  · rintro each name ⟨pointer, member, rfl⟩
    exact each pointer member

end ApiScaffold.SchemaObject
