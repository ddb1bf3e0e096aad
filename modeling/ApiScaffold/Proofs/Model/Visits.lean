import ApiScaffold.Proofs.Model.Nodes
import ApiScaffold.Proofs.Model.Pointers

/-!
# The schemas that are visited

Mapping a schema visits the schema itself, and then the items of a visited array, the properties
of a visited object, or what may be added to a visited object without properties.  A schema with
a pointer is visited, but nothing inside it.  `SchemaObject.visits` lists what is visited, with
the path to it, each schema before its parts.

Mapping fails exactly if an array without items is visited, and the failure gives the path to the
first one.  Otherwise every node of the model is regular, the structs have the names of the
properties of the visited objects, and the references have the names of the visited pointers, all
in the order of the visits.
-/

namespace ApiScaffold.SchemaObject

/-! ## Visits -/

/-- What is visited next when a schema at a path is mapped, with the paths to it. -/
def parts (schema : SchemaObject) (path : String) : List (String × SchemaObject) :=
  match schema.ref, schema.type with
  | none, some .array => schema.items.toList.map fun item => (path ++ "[]", item)
  | none, some .object =>
      if hasProperties schema.properties then
        (schema.properties.getD []).map fun entry => (path ++ "." ++ entry.1, entry.2)
      else
        match schema.additionalProperties with
        | some (.schema value) => [(path ++ "\x7b\x7d", value)]
        | _ => []
  | _, _ => []

/-- A part is the items, a property, or what may be added. -/
theorem field_of_mem_parts {schema : SchemaObject} {path : String} {part : String × SchemaObject}
    (member : part ∈ schema.parts path) :
    schema.items = some part.2 ∨
      (∃ properties, schema.properties = some properties ∧
        ∃ entry ∈ properties, entry.2 = part.2) ∨
        schema.additionalProperties = some (.schema part.2) := by
  unfold parts at member
  split at member
  · rcases List.mem_map.mp member with ⟨item, isItem, rfl⟩
    exact Or.inl (Option.mem_toList.mp isItem)
  · split at member
    · rcases List.mem_map.mp member with ⟨entry, isEntry, rfl⟩
      cases declared : schema.properties with
      | none => simp [declared] at isEntry
      | some properties =>
          rw [declared, Option.getD_some] at isEntry
          exact Or.inr (Or.inl ⟨properties, rfl, entry, isEntry, rfl⟩)
    · split at member
      · next _ value additional =>
          rw [List.mem_singleton.mp member]
          exact Or.inr (Or.inr additional)
      · cases member
  · cases member

theorem sizeOf_lt_of_mem_parts {schema : SchemaObject} {path : String}
    {part : String × SchemaObject} (member : part ∈ schema.parts path) :
    sizeOf part.2 < sizeOf schema := by
  have field := field_of_mem_parts member
  clear member
  rcases schema with ⟨ref, type, format, items, properties, additional, description⟩
  rcases field with isItem | ⟨entries, declared, entry, isEntry, isPart⟩ | isValue
  · simp only at isItem
    subst isItem
    simp
    omega
  · simp only at declared
    subst declared
    have smaller := List.sizeOf_lt_of_mem isEntry
    rcases entry with ⟨name, property⟩
    simp only at isPart
    subst isPart
    simp at smaller ⊢
    omega
  · simp only at isValue
    subst isValue
    simp
    omega

/-- The schemas that are visited when a schema at a path is mapped, with the paths to them; each
comes before its parts. -/
def visits (schema : SchemaObject) (path : String) : List (String × SchemaObject) :=
  (path, schema) :: (schema.parts path).attach.flatMap fun part => part.1.2.visits part.1.1
termination_by sizeOf schema
decreasing_by exact sizeOf_lt_of_mem_parts part.2

theorem visits_eq (schema : SchemaObject) (path : String) :
    schema.visits path =
      (path, schema) :: (schema.parts path).flatMap fun part => part.2.visits part.1 := by
  rw [visits, List.flatMap_subtype (g := fun part => part.2.visits part.1) fun _ _ => rfl,
    List.unattach_attach]

/-! ### Parts of each kind of schema -/

section Parts

variable {schema : SchemaObject} (path : String)

theorem parts_of_ref {pointer : String} (ref : schema.ref = some pointer) :
    schema.parts path = [] := by
  rw [parts, ref]

theorem parts_of_untyped (type : schema.type = none) : schema.parts path = [] := by
  rw [parts, type]
  cases schema.ref <;> rfl

theorem parts_of_array (ref : schema.ref = none) (type : schema.type = some .array) :
    schema.parts path = schema.items.toList.map fun item => (path ++ "[]", item) := by
  rw [parts, ref, type]

theorem parts_of_properties (ref : schema.ref = none) (type : schema.type = some .object)
    (full : hasProperties schema.properties = true) :
    schema.parts path =
      (schema.properties.getD []).map fun entry => (path ++ "." ++ entry.1, entry.2) := by
  rw [parts, ref, type]
  exact if_pos full

theorem parts_of_additional {value : SchemaObject} (ref : schema.ref = none)
    (type : schema.type = some .object) (empty : hasProperties schema.properties = false)
    (additional : schema.additionalProperties = some (.schema value)) :
    schema.parts path = [(path ++ "\x7b\x7d", value)] := by
  rw [parts, ref, type, empty, additional]
  rfl

theorem parts_of_allowed (ref : schema.ref = none)
    (type : schema.type = some .object) (empty : hasProperties schema.properties = false)
    (noValue : ∀ value, schema.additionalProperties ≠ some (.schema value)) :
    schema.parts path = [] := by
  rw [parts, ref, type, empty]
  change (match schema.additionalProperties with
    | some (.schema value) => [(path ++ "\x7b\x7d", value)]
    | _ => []) = []
  split
  · next value additional => exact absurd additional (noValue value)
  · rfl

theorem parts_of_basic {type : DataType} (known : schema.type = some type)
    (noArray : type ≠ .array) (noObject : type ≠ .object) : schema.parts path = [] := by
  rw [parts, known]
  cases schema.ref <;> cases type <;> first | rfl | contradiction

end Parts

/-! ## Failures -/

/-- An array without items, which cannot be mapped. -/
def lacksItems (schema : SchemaObject) : Bool :=
  schema.ref.isNone && schema.type = some .array && schema.items.isNone

/-- An outcome that is a failure exactly if an array without items was visited, and then the
failure at the first such array. -/
def FailsFirst {α : Type} (visited : List (String × SchemaObject)) (outcome : Outcome α) : Prop :=
  ∀ failure, outcome = .error failure ↔
    ∃ visit, visited.find? (fun visit => visit.2.lacksItems) = some visit ∧
      failure = .missingField "items" (some visit.1)

section FailsFirst

variable {α β : Type} {visited : List (String × SchemaObject)}

theorem FailsFirst.ok (fine : visited.find? (fun visit => visit.2.lacksItems) = none)
    (value : α) : FailsFirst visited (Except.ok value) := by
  intro failure
  simp [fine]

/-- Two steps in a row fail as what is visited by the first and then by the second says. -/
theorem FailsFirst.bind {first : Outcome α} {next : α → Outcome β}
    {later : List (String × SchemaObject)} (fails : FailsFirst visited first)
    (failsNext : ∀ value, first = .ok value → FailsFirst later (next value)) :
    FailsFirst (visited ++ later) (first >>= next) := by
  intro failure
  rw [List.find?_append]
  cases stepped : first with
  | error other =>
      rcases (fails other).mp stepped with ⟨visit, found, rfl⟩
      rw [found, Option.some_or]
      constructor
      · intro failed
        cases failed
        exact ⟨visit, rfl, rfl⟩
      · rintro ⟨_, same, rfl⟩
        cases same
        rfl
  | ok value =>
      have fine : visited.find? (fun visit => visit.2.lacksItems) = none := by
        cases found : visited.find? fun visit => visit.2.lacksItems with
        | none => rfl
        | some visit =>
            have failed := (fails _).mpr ⟨visit, found, rfl⟩
            cases stepped.symm.trans failed
      rw [fine, Option.none_or]
      exact failsNext value stepped failure

/-- A last step that gives a result does not fail. -/
theorem FailsFirst.map {first : Outcome α} (fails : FailsFirst visited first) (result : α → β) :
    FailsFirst visited (first >>= fun value => pure (result value)) := by
  have last : ∀ value, FailsFirst [] (pure (result value)) := fun value => .ok rfl (result value)
  have both := fails.bind fun value _ => last value
  rwa [List.append_nil] at both

/-- If a result is made of every part, only the part can fail. -/
theorem FailsFirst.of_part {part : Outcome α} {next : Option α → Outcome β}
    (fails : FailsFirst visited part) (makes : ∀ value, ∃ result, next (some value) = .ok result) :
    FailsFirst visited ((part >>= fun value => pure (some value)) >>= next) := by
  rw [← List.append_nil visited]
  refine (fails.map some).bind fun value? isPart => ?_
  rcases Outcome.bind_eq_ok_iff.mp isPart with ⟨value, _, same⟩
  rcases makes value with ⟨result, made⟩
  rw [← Except.ok.inj same, made]
  exact .ok rfl result

/-- A visited schema that has what it needs does not fail. -/
theorem FailsFirst.cons {visit : String × SchemaObject} {outcome : Outcome α}
    (fine : visit.2.lacksItems = false) (fails : FailsFirst visited outcome) :
    FailsFirst (visit :: visited) outcome := by
  intro failure
  rw [List.find?_cons_of_neg (by simp [fine])]
  exact fails failure

theorem failsFirst_ofEntries {entries : List (String × SchemaObject)} {path : String}
    (each : ∀ entry ∈ entries, FailsFirst (entry.2.visits (path ++ "." ++ entry.1))
      (Model.ofSchema entry.2 (path ++ "." ++ entry.1))) :
    FailsFirst (entries.flatMap fun entry => entry.2.visits (path ++ "." ++ entry.1))
      (Model.ofEntries entries path) := by
  induction entries with
  | nil => exact .ok rfl []
  | cons entry rest ih =>
      rcases entry with ⟨name, schema⟩
      rw [List.flatMap_cons, Model.ofEntries]
      refine (each (name, schema) List.mem_cons_self).bind fun property _ => ?_
      exact (ih fun entry member => each entry (List.mem_cons_of_mem _ member)).map _

end FailsFirst

theorem lacksItems_of_ref {schema : SchemaObject} {pointer : String}
    (ref : schema.ref = some pointer) : schema.lacksItems = false := by
  simp [lacksItems, ref]

theorem lacksItems_of_type {schema : SchemaObject} (type : schema.type ≠ some .array) :
    schema.lacksItems = false := by
  simp [lacksItems, type]

section OfSchema

variable {schema : SchemaObject} {path : String}

/-- An array fails at itself if it has no items, and otherwise as its items do. -/
theorem failsFirst_of_array (ref : schema.ref = none) (type : schema.type = some .array)
    (each : ∀ item, schema.items = some item →
      FailsFirst (item.visits (path ++ "[]")) (Model.ofSchema item (path ++ "[]"))) :
    FailsFirst (schema.visits path) (Model.ofSchema schema path) := by
  rw [visits_eq, ofSchema_eq, parts_of_array path ref type, ref, type]
  cases items : schema.items with
  | none =>
      have lacks : schema.lacksItems = true := by simp [lacksItems, ref, type, items]
      intro failure
      rw [List.find?_cons_of_pos (by exact lacks)]
      constructor
      · intro failed
        cases failed
        exact ⟨(path, schema), rfl, rfl⟩
      · rintro ⟨_, same, rfl⟩
        cases same
        rfl
  | some item =>
      refine .cons (by simp [lacksItems, items]) ?_
      rw [Option.toList_some, List.map_singleton, List.flatMap_singleton]
      exact (each item items).of_part fun element => ⟨_, rfl⟩

/-- An object with properties fails as the first of them that does. -/
theorem failsFirst_of_properties (ref : schema.ref = none) (type : schema.type = some .object)
    (full : hasProperties schema.properties = true)
    (each : ∀ entry ∈ schema.properties.getD [],
      FailsFirst (entry.2.visits (path ++ "." ++ entry.1))
        (Model.ofSchema entry.2 (path ++ "." ++ entry.1))) :
    FailsFirst (schema.visits path) (Model.ofSchema schema path) := by
  rw [visits_eq, ofSchema_eq, parts_of_properties path ref type full, ref, type]
  refine .cons (lacksItems_of_type (by simp [type])) ?_
  simp only [full, if_true, List.flatMap_map]
  cases declared : schema.properties with
  | none => simp [hasProperties, declared] at full
  | some properties =>
      rw [declared] at each
      exact (failsFirst_ofEntries each).map _

/-- An object without properties fails as what may be added to it. -/
theorem failsFirst_of_additional (ref : schema.ref = none) (type : schema.type = some .object)
    (empty : hasProperties schema.properties = false)
    (each : ∀ value, schema.additionalProperties = some (.schema value) →
      FailsFirst (value.visits (path ++ "\x7b\x7d"))
        (Model.ofSchema value (path ++ "\x7b\x7d"))) :
    FailsFirst (schema.visits path) (Model.ofSchema schema path) := by
  rw [visits_eq, ofSchema_eq, ref, type]
  refine .cons (lacksItems_of_type (by simp [type])) ?_
  simp only [empty, Bool.false_eq_true, if_false]
  cases additional : schema.additionalProperties with
  | none =>
      rw [parts_of_allowed path ref type empty (by simp [additional])]
      exact .ok rfl _
  | some allowed =>
      cases allowed with
      | allowed truth =>
          rw [parts_of_allowed path ref type empty (by simp [additional])]
          cases truth <;> exact .ok rfl _
      | schema value =>
          rw [parts_of_additional path ref type empty additional, List.flatMap_singleton]
          exact (each value additional).of_part fun element => ⟨_, rfl⟩

end OfSchema

/-- Mapping a schema fails exactly at the first visited array without items. -/
theorem failsFirst_ofSchema (schema : SchemaObject) (path : String) :
    FailsFirst (schema.visits path) (Model.ofSchema schema path) := by
  induction schema using induct generalizing path with
  | step schema ofItem ofProperty ofValue =>
      cases ref : schema.ref with
      | some pointer =>
          rw [visits_eq, ofSchema_eq, parts_of_ref path ref, ref]
          exact .cons (lacksItems_of_ref ref) (.ok rfl _)
      | none =>
          cases known : schema.type with
          | none =>
              rw [visits_eq, ofSchema_eq, parts_of_untyped path known, ref, known]
              exact .cons (lacksItems_of_type (by simp [known])) (.ok rfl _)
          | some type =>
              by_cases isArray : type = .array
              · subst isArray
                exact failsFirst_of_array ref known fun item items => ofItem item items _
              by_cases isObject : type = .object
              · subst isObject
                cases full : hasProperties schema.properties with
                | true =>
                    refine failsFirst_of_properties ref known full fun entry member => ?_
                    cases declared : schema.properties with
                    | none => simp [declared] at member
                    | some properties =>
                        rw [declared] at member
                        exact ofProperty properties declared entry member _
                | false =>
                    exact failsFirst_of_additional ref known full fun value additional =>
                      ofValue value additional _
              rw [visits_eq, ofSchema_eq, parts_of_basic path known isArray isObject, ref, known]
              refine .cons (lacksItems_of_type (by simpa [known] using isArray)) ?_
              cases type <;> first | exact .ok rfl _ | contradiction

/-! ## Pointers -/

theorem entryPointers_eq_flatMap (entries : List (String × SchemaObject)) :
    entryPointers entries = entries.flatMap fun entry => entry.2.pointers := by
  induction entries with
  | nil => rfl
  | cons entry rest ih => rw [entryPointers, List.flatMap_cons, ih]

/-- The pointers of a schema are its own one and those of its parts. -/
theorem pointers_eq_flatMap_parts (schema : SchemaObject) (path : String) :
    schema.pointers =
      schema.ref.toList ++ (schema.parts path).flatMap fun part => part.2.pointers := by
  rw [pointers_eq, parts]
  cases schema.ref with
  | some pointer => rfl
  | none =>
      cases schema.type with
      | none => rfl
      | some type =>
          cases type with
          | array => cases schema.items <;> simp [itemPointers]
          | object =>
              cases hasProperties schema.properties with
              | true =>
                  cases schema.properties <;>
                    simp [propertyPointers, entryPointers_eq_flatMap, List.flatMap_map]
              | false =>
                  cases schema.additionalProperties with
                  | none => rfl
                  | some allowed => cases allowed <;> simp [additionalPointers]
          | boolean | integer | number | string => rfl

/-- The pointers of a schema are those of the schemas that are visited. -/
theorem filterMap_ref_visits (schema : SchemaObject) (path : String) :
    (schema.visits path).filterMap (fun visit => visit.2.ref) = schema.pointers := by
  induction schema, path using visits.induct with
  | case1 schema path ofPart =>
      have rest : ((schema.parts path).flatMap fun part => part.2.visits part.1).filterMap
          (fun visit => visit.2.ref) = (schema.parts path).flatMap fun part => part.2.pointers := by
        rw [List.filterMap_flatMap]
        exact List.flatMap_congr fun part member => ofPart ⟨part, member⟩
      rw [visits_eq, pointers_eq_flatMap_parts schema path, ← rest]
      cases ref : schema.ref <;> simp [ref]

/-! ## Names of properties -/

/-- The names of the properties that an object is mapped to; none for what is no object, and for
an object that is mapped to a map. -/
def fieldNames? (schema : SchemaObject) : Option (List String) :=
  match schema.ref, schema.type with
  | none, some .object =>
      if hasProperties schema.properties then some (Entries.keys (schema.properties.getD []))
      else
        match schema.additionalProperties with
        | none | some (.allowed false) => some []
        | _ => none
  | _, _ => none

theorem fieldNames?_of_ref {schema : SchemaObject} {pointer : String}
    (ref : schema.ref = some pointer) : schema.fieldNames? = none := by
  rw [fieldNames?, ref]

theorem fieldNames?_of_type {schema : SchemaObject} (type : schema.type ≠ some .object) :
    schema.fieldNames? = none := by
  unfold fieldNames?
  split
  · contradiction
  · rfl

theorem fieldNames?_of_object {schema : SchemaObject} (ref : schema.ref = none)
    (type : schema.type = some .object) :
    schema.fieldNames? =
      if hasProperties schema.properties then some (Entries.keys (schema.properties.getD []))
      else
        match schema.additionalProperties with
        | none | some (.allowed false) => some []
        | _ => none := by
  rw [fieldNames?, ref, type]

theorem filterMap_fieldNames?_ofDataType {type : DataType} (noArray : type ≠ .array)
    (noObject : type ≠ .object) (format description : Option String) :
    (Model.ofDataType type format description).nodes.filterMap Model.fieldNames? = [] := by
  unfold Model.ofDataType
  split
  · rfl
  · have noStruct : type.kind format ≠ .struct :=
      ModelKind.ne_of_isPrimitive (DataType.isPrimitive_kind noArray noObject format) rfl
    simp [Model.fieldNames?_ofKind noStruct]

theorem filterMap_fieldNames?_flatMap {properties : List (String × SchemaObject)}
    {models : List (String × Model)}
    (each : Entries.Matches (fun schema model => ∀ path,
      model.nodes.filterMap Model.fieldNames? =
        (schema.visits path).filterMap fun visit => visit.2.fieldNames?) properties models)
    (path : String) :
    (models.flatMap fun property => property.2.nodes).filterMap Model.fieldNames? =
      (properties.flatMap fun entry => entry.2.visits (path ++ "." ++ entry.1)).filterMap
        fun visit => visit.2.fieldNames? := by
  induction each with
  | nil => rfl
  | cons heads _ ih =>
      rw [List.flatMap_cons, List.flatMap_cons, List.filterMap_append, List.filterMap_append, ih,
        heads.2]

/-- The structs of a model have the names of the properties of the visited objects, in order. -/
theorem Maps.filterMap_fieldNames? {schema : SchemaObject} {model : Model}
    (maps : schema.Maps model) (path : String) :
    model.nodes.filterMap Model.fieldNames? =
      (schema.visits path).filterMap fun visit => visit.2.fieldNames? := by
  induction maps generalizing path with
  | @pointer schema pointer ref =>
      rw [visits_eq, parts_of_ref path ref]
      simp [fieldNames?_of_ref ref]
  | @untyped schema ref type =>
      rw [visits_eq, parts_of_untyped path type]
      simp [fieldNames?_of_type, type, Model.fieldNames?_ofKind]
  | @array schema item element ref type items _ ih =>
      have named : schema.fieldNames? = none := fieldNames?_of_type (by simp [type])
      rw [visits_eq, parts_of_array path ref type, items, Model.nodes_array,
        List.filterMap_cons_none (Model.fieldNames?_array _ _),
        List.filterMap_cons_none (by exact named), ih (path ++ "[]"), Option.toList_some,
        List.map_singleton, List.flatMap_singleton]
  | @object schema properties models ref type declared filled names _ ih =>
      have full : hasProperties schema.properties = true := by
        simpa [hasProperties, declared] using filled
      have named : schema.fieldNames? = some (Entries.keys models) := by
        rw [fieldNames?_of_object ref type, if_pos full, declared, Option.getD_some, names]
      rw [visits_eq, parts_of_properties path ref type full, declared, Option.getD_some,
        List.flatMap_map, Model.nodes_struct,
        List.filterMap_cons_some (Model.fieldNames?_struct models _),
        List.filterMap_cons_some (by exact named)]
      exact congrArg _ (filterMap_fieldNames?_flatMap
        (Entries.matches_iff_keys_and_zip.mpr ⟨names, ih⟩) path)
  | @dictionary schema value element ref type empty additional _ ih =>
      have named : schema.fieldNames? = none := by
        simp [fieldNames?_of_object ref type, empty, additional]
      rw [visits_eq, parts_of_additional path ref type empty additional, Model.nodes_map,
        List.filterMap_cons_none (Model.fieldNames?_map _ _),
        List.filterMap_cons_none (by exact named), ih (path ++ "\x7b\x7d"),
        List.flatMap_singleton]
  | @openObject schema ref type empty additional =>
      have named : schema.fieldNames? = none := by
        simp [fieldNames?_of_object ref type, empty, additional]
      rw [visits_eq, parts_of_allowed path ref type empty (by simp [additional])]
      simp [named, Model.fieldNames?_ofKind]
  | @closedObject schema ref type empty additional =>
      have noValue : ∀ value, schema.additionalProperties ≠ some (.schema value) := by
        rcases additional with absent | forbidden <;> simp [*]
      have named : schema.fieldNames? = some [] := by
        rw [fieldNames?_of_object ref type]
        rcases additional with absent | forbidden <;> simp [*]
      rw [visits_eq, parts_of_allowed path ref type empty noValue]
      simp [named]
  | @basic schema type ref known noArray noObject =>
      rw [visits_eq, parts_of_basic path known noArray noObject]
      have named : schema.fieldNames? = none :=
        fieldNames?_of_type (by simpa [known] using noObject)
      rw [filterMap_fieldNames?_ofDataType noArray noObject,
        List.filterMap_cons_none (by exact named)]
      rfl

/-! ## Regular nodes -/

theorem regularThroughout_ofDataType {type : DataType} (noArray : type ≠ .array)
    (noObject : type ≠ .object) (format description : Option String) :
    (Model.ofDataType type format description).RegularThroughout := by
  unfold Model.ofDataType
  split
  · exact Model.regularThroughout_array (by simpa [Model.byte] using Model.regular_ofKind rfl none)
      description
  · refine Model.regularThroughout_ofKind (DataType.isPrimitive_kind noArray noObject format) ?_
      description
    unfold DataType.kind
    split <;> decide

/-- The model of a schema is regular throughout. -/
theorem Maps.regularThroughout {schema : SchemaObject} {model : Model}
    (maps : schema.Maps model) : model.RegularThroughout := by
  induction maps with
  | pointer => exact Model.regularThroughout_reference _
  | untyped => exact Model.regularThroughout_ofKind rfl (by decide) _
  | array _ _ _ _ ih => exact Model.regularThroughout_array ih.nodes _
  | @object schema properties models _ _ _ _ names _ ih =>
      have matching :
          Entries.Matches (fun _ (model : Model) => model.RegularThroughout) properties models :=
        Entries.matches_iff_keys_and_zip.mpr ⟨names, ih⟩
      refine Model.regularThroughout_struct (fun property member => ?_) _
      rcases matching.exists_left member with ⟨_, _, regular⟩
      exact regular
  | dictionary _ _ _ _ _ ih => exact ih.map _
  | openObject => exact (Model.regularThroughout_ofKind rfl (by decide) none).map _
  | closedObject => exact Model.regularThroughout_struct (by simp) _
  | basic _ _ noArray noObject => exact regularThroughout_ofDataType noArray noObject _ _

/-! ## The result of mapping -/

/-- What mapping a schema at a path gives, read off the schemas that are visited. -/
structure MappedByVisits (schema : SchemaObject) (path : String) : Prop where
  /-- It fails exactly if an array without items is visited. -/
  fails : (∃ failure, Model.ofSchema schema path = .error failure) ↔
    ∃ visit ∈ schema.visits path, visit.2.lacksItems = true
  /-- The failure is that of the first such array, at its path. -/
  failure : ∀ failure, Model.ofSchema schema path = .error failure ↔
    ∃ visit, (schema.visits path).find? (fun visit => visit.2.lacksItems) = some visit ∧
      failure = .missingField "items" (some visit.1)
  /-- A model keeps the structure of the schema. -/
  model : ∀ model, Model.ofSchema schema path = .ok model →
    schema.Maps model ∧ model.RegularThroughout ∧
      model.nodes.filterMap Model.fieldNames? =
        (schema.visits path).filterMap (fun visit => visit.2.fieldNames?) ∧
      model.references =
        (schema.visits path).filterMap fun visit => visit.2.ref.map referenceTo

/-- Mapping a schema fails at the first visited array without items, and otherwise gives a regular
model with the names and the references of the visited schemas, in the order of the visits. -/
theorem mappedByVisits (schema : SchemaObject) (path : String) : schema.MappedByVisits path where
  fails := by
    rw [← List.find?_isSome, Option.isSome_iff_exists]
    constructor
    · rintro ⟨failure, failed⟩
      rcases (failsFirst_ofSchema schema path failure).mp failed with ⟨visit, found, _⟩
      exact ⟨visit, found⟩
    · rintro ⟨visit, found⟩
      exact ⟨_, (failsFirst_ofSchema schema path _).mpr ⟨visit, found, rfl⟩⟩
  failure := failsFirst_ofSchema schema path
  model model mapped := by
    have maps := maps_of_ofSchema mapped
    have references := maps.references_eq
    rw [← filterMap_ref_visits schema path] at references
    exact ⟨maps, maps.regularThroughout, maps.filterMap_fieldNames? path, by
      rw [references, List.map_filterMap]⟩

end ApiScaffold.SchemaObject
