import ApiScaffold.Model.OfSchema
import ApiScaffold.Proofs.Collection.Matching
import ApiScaffold.Proofs.Model.Shaped
import ApiScaffold.Proofs.Outcome

/-!
# The rules of schemas and their models

`SchemaObject.Maps` gives the model of a schema by rules that mention no path.  A
schema is mapped to a model at some path exactly if the rules say so, and then it is at
every path: a path only matters for what a failure says.

The pointers that are met on the way are those of `SchemaObject.pointers`.  Their names
are exactly the references of the model, in the same order.
-/

namespace ApiScaffold

/-- A type that is no array and no object has a primitive kind, whatever its format. -/
theorem DataType.isPrimitive_kind {type : DataType} (noArray : type ≠ .array)
    (noObject : type ≠ .object) (format : Option String) :
    (type.kind format).isPrimitive = true := by
  unfold DataType.kind
  split <;> first | rfl | contradiction

namespace SchemaObject

/-- The model that a schema has. -/
inductive Maps : SchemaObject → Model → Prop
  | pointer {schema : SchemaObject} {pointer : String} (ref : schema.ref = some pointer) :
      Maps schema (.reference (pointerName pointer))
  | untyped {schema : SchemaObject} (ref : schema.ref = none) (type : schema.type = none) :
      Maps schema (.ofKind .any schema.description)
  | array {schema item : SchemaObject} {element : Model} (ref : schema.ref = none)
      (type : schema.type = some .array) (items : schema.items = some item)
      (mapped : Maps item element) : Maps schema (.array element schema.description)
  | object {schema : SchemaObject} {properties : List (String × SchemaObject)}
      {models : List (String × Model)} (ref : schema.ref = none)
      (type : schema.type = some .object) (declared : schema.properties = some properties)
      (filled : properties ≠ []) (names : Entries.keys properties = Entries.keys models)
      (mapped : ∀ pair ∈ properties.zip models, Maps pair.1.2 pair.2.2) :
      Maps schema (.struct models schema.description)
  | dictionary {schema value : SchemaObject} {element : Model} (ref : schema.ref = none)
      (type : schema.type = some .object) (empty : hasProperties schema.properties = false)
      (additional : schema.additionalProperties = some (.schema value))
      (mapped : Maps value element) : Maps schema (.map element schema.description)
  | openObject {schema : SchemaObject} (ref : schema.ref = none)
      (type : schema.type = some .object) (empty : hasProperties schema.properties = false)
      (additional : schema.additionalProperties = some (.allowed true)) :
      Maps schema (.map (.ofKind .any none) schema.description)
  | closedObject {schema : SchemaObject} (ref : schema.ref = none)
      (type : schema.type = some .object) (empty : hasProperties schema.properties = false)
      (additional : schema.additionalProperties = none ∨
        schema.additionalProperties = some (.allowed false)) :
      Maps schema (.struct [] schema.description)
  | basic {schema : SchemaObject} {type : DataType} (ref : schema.ref = none)
      (known : schema.type = some type) (noArray : type ≠ .array) (noObject : type ≠ .object) :
      Maps schema (.ofDataType type schema.format schema.description)

/-- What holds of a schema as soon as it holds of its direct parts, holds of all schemas. -/
theorem induct {motive : SchemaObject → Prop}
    (step : ∀ schema : SchemaObject,
      (∀ item, schema.items = some item → motive item) →
      (∀ properties, schema.properties = some properties →
        ∀ entry ∈ properties, motive entry.2) →
      (∀ value, schema.additionalProperties = some (.schema value) → motive value) →
      motive schema) (schema : SchemaObject) : motive schema := by
  refine step schema ?_ ?_ ?_
  · intro item items
    exact induct step item
  · intro properties declared entry member
    exact induct step entry.2
  · intro value additional
    exact induct step value
termination_by sizeOf schema
decreasing_by
  all_goals
    obtain ⟨ref, type, format, schemaItems, schemaProperties, schemaAdditional, description⟩ :=
      schema
  · simp only at items
    subst items
    simp
    omega
  · simp only at declared
    subst declared
    have smaller := List.sizeOf_lt_of_mem member
    obtain ⟨name, property⟩ := entry
    simp at smaller ⊢
    omega
  · simp only at additional
    subst additional
    simp
    omega

/-! ## Rules and mapping -/

theorem ofSchema_eq (schema : SchemaObject) (path : String) :
    Model.ofSchema schema path =
      match schema.ref, schema.type with
      | some pointer, _ => .ok (.reference (pointerName pointer))
      | none, none => .ok (.ofKind .any schema.description)
      | none, some .array => do
          match ← Model.ofItems schema.items path with
          | some element => pure (.array element schema.description)
          | none => throw (.missingField "items" (some path))
      | none, some .object =>
          if hasProperties schema.properties then do
            pure (.struct (← Model.ofProperties schema.properties path) schema.description)
          else do
            match ← Model.ofAdditional schema.additionalProperties path with
            | some element => pure (.map element schema.description)
            | none => pure (.struct [] schema.description)
      | none, some type => .ok (.ofDataType type schema.format schema.description) := by
  obtain ⟨ref, type, format, items, properties, additional, description⟩ := schema
  cases ref with
  | some pointer => rfl
  | none =>
      cases type with
      | none => rfl
      | some type => cases type <;> rfl

/-- Mapping the properties of an object gives a model for each of them. -/
theorem matches_of_ofEntries {related : SchemaObject → Model → Prop}
    {properties : List (String × SchemaObject)} {models : List (String × Model)} {path : String}
    (each : ∀ entry ∈ properties, ∀ path model,
      Model.ofSchema entry.2 path = .ok model → related entry.2 model)
    (mapped : Model.ofEntries properties path = .ok models) :
    Entries.Matches related properties models := by
  induction properties generalizing models with
  | nil =>
      cases mapped
      exact .nil
  | cons entry rest ih =>
      obtain ⟨name, schema⟩ := entry
      rw [Model.ofEntries] at mapped
      obtain ⟨model, first, more⟩ := Outcome.bind_eq_ok_iff.mp mapped
      obtain ⟨others, second, built⟩ := Outcome.bind_eq_ok_iff.mp more
      cases built
      refine .cons ⟨rfl, each (name, schema) List.mem_cons_self _ model first⟩ ?_
      exact ih (fun entry member => each entry (List.mem_cons_of_mem _ member)) second

/-- If each property of an object has a model, mapping gives those models. -/
theorem ofEntries_of_matches {properties : List (String × SchemaObject)}
    {models : List (String × Model)}
    (each : Entries.Matches (fun schema model => ∀ path, Model.ofSchema schema path = .ok model)
      properties models) (path : String) : Model.ofEntries properties path = .ok models := by
  induction each with
  | nil => rfl
  | @cons left right lefts rights heads _ ih =>
      obtain ⟨name, schema⟩ := left
      obtain ⟨other, model⟩ := right
      obtain ⟨rfl, mapped⟩ := heads
      rw [Model.ofEntries, mapped, ih]
      rfl

theorem Maps.ofSchema_eq_ok {schema : SchemaObject} {model : Model} (maps : schema.Maps model)
    (path : String) : Model.ofSchema schema path = .ok model := by
  induction maps generalizing path with
  | pointer ref => rw [ofSchema_eq, ref]
  | untyped ref type => rw [ofSchema_eq, ref, type]
  | array ref type items _ ih =>
      rw [ofSchema_eq, ref, type, items]
      simp only [Model.ofItems, ih]
      rfl
  | @object schema properties models ref type declared filled names _ ih =>
      have full : hasProperties schema.properties = true := by
        rw [declared]
        cases properties with
        | nil => exact absurd rfl filled
        | cons => rfl
      have mapped : Model.ofEntries properties path = .ok models :=
        ofEntries_of_matches (Entries.matches_iff_keys_and_zip.mpr
          ⟨names, fun pair member path => ih pair member path⟩) path
      rw [ofSchema_eq, ref, type]
      simp only [full, if_true]
      rw [declared, Model.ofProperties, mapped]
      rfl
  | dictionary ref type empty additional _ ih =>
      rw [ofSchema_eq, ref, type]
      simp only [empty, Bool.false_eq_true, if_false]
      rw [additional, Model.ofAdditional, ih]
      rfl
  | openObject ref type empty additional =>
      rw [ofSchema_eq, ref, type]
      simp only [empty, Bool.false_eq_true, if_false]
      rw [additional]
      rfl
  | closedObject ref type empty additional =>
      rw [ofSchema_eq, ref, type]
      simp only [empty, Bool.false_eq_true, if_false]
      rcases additional with absent | forbidden
      · rw [absent]
        rfl
      · rw [forbidden]
        rfl
  | @basic schema type ref known noArray noObject =>
      rw [ofSchema_eq, ref, known]
      cases type <;> first | rfl | contradiction

/-- The items of an array have an element if there are any. -/
theorem ofItems_spec {items : Option SchemaObject} {path : String} {element? : Option Model}
    (mapped : Model.ofItems items path = .ok element?) :
    (items = none ∧ element? = none) ∨
      ∃ item element, items = some item ∧ element? = some element ∧
        Model.ofSchema item (path ++ "[]") = .ok element := by
  cases items with
  | none =>
      cases mapped
      exact Or.inl ⟨rfl, rfl⟩
  | some item =>
      rcases Outcome.bind_eq_ok_iff.mp mapped with ⟨element, mappedItem, wrapped⟩
      cases wrapped
      exact Or.inr ⟨item, element, rfl, rfl, mappedItem⟩

/-- What may be added to an object has an element unless nothing may be added. -/
theorem ofAdditional_spec {additional : Option (AdditionalProperties SchemaObject)}
    {path : String} {element? : Option Model}
    (mapped : Model.ofAdditional additional path = .ok element?) :
    ((additional = none ∨ additional = some (.allowed false)) ∧ element? = none) ∨
      (additional = some (.allowed true) ∧ element? = some (.ofKind .any none)) ∨
        ∃ value element, additional = some (.schema value) ∧ element? = some element ∧
          Model.ofSchema value (path ++ "\x7b\x7d") = .ok element := by
  cases additional with
  | none =>
      cases mapped
      exact Or.inl ⟨Or.inl rfl, rfl⟩
  | some allowed =>
      cases allowed with
      | allowed truth =>
          cases truth with
          | false =>
              cases mapped
              exact Or.inl ⟨Or.inr rfl, rfl⟩
          | true =>
              cases mapped
              exact Or.inr (Or.inl ⟨rfl, rfl⟩)
      | schema value =>
          rcases Outcome.bind_eq_ok_iff.mp mapped with ⟨element, mappedValue, wrapped⟩
          cases wrapped
          exact Or.inr (Or.inr ⟨value, element, rfl, rfl, mappedValue⟩)

theorem maps_of_ofSchema {schema : SchemaObject} {path : String} {model : Model}
    (mapped : Model.ofSchema schema path = .ok model) : schema.Maps model := by
  induction schema using SchemaObject.induct generalizing path model with
  | step schema ofItem ofProperty ofValue =>
      rw [ofSchema_eq] at mapped
      split at mapped
      · next _ _ pointer ref =>
          cases mapped
          exact .pointer ref
      · next ref type =>
          cases mapped
          exact .untyped ref type
      · next ref type =>
          rcases Outcome.bind_eq_ok_iff.mp mapped with ⟨element?, inside, built⟩
          rcases ofItems_spec inside with ⟨_, rfl⟩ | ⟨item, element, items, rfl, mappedItem⟩
          · cases built
          · cases built
            exact .array ref type items (ofItem item items mappedItem)
      · next ref type =>
          by_cases full : hasProperties schema.properties = true
          · simp only [full, if_true] at mapped
            rcases Outcome.bind_eq_ok_iff.mp mapped with ⟨models, inside, built⟩
            cases built
            cases declared : schema.properties with
            | none => simp [hasProperties, declared] at full
            | some properties =>
                rw [declared, Model.ofProperties] at inside
                have matching := matches_of_ofEntries
                  (fun entry member path model => ofProperty properties declared entry member)
                  inside
                rcases Entries.matches_iff_keys_and_zip.mp matching with ⟨names, each⟩
                have filled : properties ≠ [] := by
                  rintro rfl
                  simp [hasProperties, declared] at full
                exact .object ref type declared filled names each
          · simp only [full, Bool.false_eq_true, if_false] at mapped
            have empty : hasProperties schema.properties = false := by simpa using full
            rcases Outcome.bind_eq_ok_iff.mp mapped with ⟨element?, inside, built⟩
            rcases ofAdditional_spec inside with
              ⟨closed, rfl⟩ | ⟨any, rfl⟩ | ⟨value, element, isSchema, rfl, mappedValue⟩
            · cases built
              exact .closedObject ref type empty closed
            · cases built
              exact .openObject ref type empty any
            · cases built
              exact .dictionary ref type empty isSchema (ofValue value isSchema mappedValue)
      · next type noArray noObject ref known =>
          cases mapped
          exact .basic ref known noArray noObject

/-- The rules say exactly what mapping gives, at any path. -/
theorem maps_iff_ofSchema_eq_ok {schema : SchemaObject} {model : Model} (path : String) :
    schema.Maps model ↔ Model.ofSchema schema path = .ok model :=
  ⟨fun maps => maps.ofSchema_eq_ok path, maps_of_ofSchema⟩

/-- A schema has at most one model. -/
theorem Maps.unique {schema : SchemaObject} {first second : Model} (left : schema.Maps first)
    (right : schema.Maps second) : first = second := by
  have equal := (left.ofSchema_eq_ok "").symm.trans (right.ofSchema_eq_ok "")
  exact Except.ok.inj equal

/-- The models of schemas have the parts that their kinds call for. -/
theorem Maps.shaped {schema : SchemaObject} {model : Model} (maps : schema.Maps model) :
    model.Shaped := by
  induction maps with
  | pointer => exact .reference _ _
  | untyped => exact .basic rfl _
  | array _ _ _ _ ih => exact .array ih _
  | @object schema properties models _ _ _ _ names _ ih =>
      refine .struct ?_ _
      intro property member
      have matching : Entries.Matches (fun _ (model : Model) => model.Shaped) properties models :=
        Entries.matches_iff_keys_and_zip.mpr ⟨names, ih⟩
      obtain ⟨_, _, shaped⟩ := matching.exists_left member
      exact shaped
  | dictionary _ _ _ _ _ ih => exact .map ih _
  | openObject => exact .map (.basic rfl _) _
  | closedObject => exact .struct (by simp) _
  | @basic schema type _ _ noArray noObject =>
      unfold Model.ofDataType
      split
      · exact .array (.basic rfl _) _
      · exact .basic (DataType.isPrimitive_kind noArray noObject _) _

/-! ## Schemas that say nothing but their type -/

/-- The schema of a text. -/
def text : SchemaObject :=
  ⟨none, some .string, none, none, none, none, none⟩

/-- The schema of a list of items. -/
def array (items : SchemaObject) : SchemaObject :=
  ⟨none, some .array, none, some items, none, none, none⟩

/-- The schema of an object with properties. -/
def object (properties : List (String × SchemaObject)) : SchemaObject :=
  ⟨none, some .object, none, none, some properties, none, none⟩

/-- The schema of a map of values. -/
def dictionary (values : SchemaObject) : SchemaObject :=
  ⟨none, some .object, none, none, none, some (.schema values), none⟩

/-- The schema that a pointer leads to. -/
def pointer (target : String) : SchemaObject :=
  ⟨some target, none, none, none, none, none, none⟩

end SchemaObject

end ApiScaffold
