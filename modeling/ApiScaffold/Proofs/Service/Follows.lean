import ApiScaffold.Proofs.Service.Draft
import ApiScaffold.Proofs.Service.Expansion

/-!
# How drafts follow from documents

Every named schema has its hoisted model in the draft, every parameter of the components the
hoisted model of its schema, and every operation the hoisted form of what it was built with.
All named models are flat, and they refer to nothing but each other and the names of
pointers in the document.

This needs distinct names of schemas, which the check of names makes sure of.  The proof
follows the stages of the draft, one registry after the other.

A draft that passed all checks is sound: its references are resolved, and what is written
out comes to an end.
-/

namespace ApiScaffold

/-- A name to which some schema of the document points. -/
def Document.PointsTo (document : Document) (name : String) : Prop :=
  ∃ schema ∈ document.usedSchemas, ∃ pointer ∈ schema.pointers, pointerName pointer = name

/-- The hoisted form of the model of a schema. -/
def HoistedSchema (models : Entries String Model) (schema : SchemaObject) (model : Model) :
    Prop :=
  ∃ raw, schema.Maps raw ∧ Model.HoistedIn models raw model

/-- An operation that was built as it is declared and then hoisted. -/
def Definitions.Hoists (definitions : Definitions) (models : Entries String Model)
    (declared : DeclaredOperation) (operation : Operation) : Prop :=
  operation.id = operationIdOf declared.method declared.uri declared.object ∧
    (definitions.document.places declared).Related
      (fun schema model => ∃ built, definitions.Gives schema built ∧
        Model.HoistedIn models built model)
      (fun schema model => ∃ built, definitions.Gives schema built ∧
        Model.HoistedBelow models built model) operation.places

/-- What the operations of a draft could be built from. -/
def Draft.definitions (draft : Draft) (document : Document) : Definitions :=
  ⟨document, draft.models, draft.parameters⟩

/-- How a draft follows from a document and the models of its schemas. -/
structure Draft.Follows (draft : Draft) (document : Document) (mapped : Entries String Model) :
    Prop where
  declared : document.declaredModels = .ok mapped
  keys_isPrefix : mapped.keys <+: draft.models.keys
  below : ∀ {name raw}, mapped.get? name = some raw →
    ∃ hoisted, draft.models.get? name = some hoisted ∧
      Model.HoistedBelow draft.models raw hoisted
  flat : ∀ {name model}, draft.models.get? name = some model →
    model.Flat ∧ model.Sourced document.PointsTo draft.models
  parameters : document.parameters.Matches (document.Defines (HoistedSchema draft.models))
    draft.parameters
  operations : List.Forall₂ ((draft.definitions document).Hoists draft.models)
    document.declaredOperations draft.operations

namespace Document

variable {document : Document}

/-- The model of a used schema refers to nothing but names to which the document points. -/
theorem refersWithin_of_maps {schema : SchemaObject} {raw : Model}
    (used : schema ∈ document.usedSchemas) (maps : schema.Maps raw) :
    raw.RefersWithin document.PointsTo := by
  rw [maps.refersWithin_iff]
  intro pointer member
  exact ⟨schema, used, pointer, member, rfl⟩

theorem mem_usedSchemas_of_schemas {entry : String × SchemaObject}
    (member : entry ∈ document.schemas) : entry.2 ∈ document.usedSchemas := by
  simp only [usedSchemas, List.mem_append]
  exact Or.inl (Or.inl (List.mem_map_of_mem member))

theorem mem_usedSchemas_of_parameterSchemas {entry : String × SchemaObject}
    (member : entry ∈ document.parameterSchemas) : entry.2 ∈ document.usedSchemas := by
  simp only [usedSchemas, List.mem_append]
  exact Or.inl (Or.inr (List.mem_map_of_mem member))

theorem mem_usedSchemas_of_places {declared : DeclaredOperation}
    (isDeclared : declared ∈ document.declaredOperations) {schema : SchemaObject}
    (inPlaces : schema ∈ (document.places declared).all) : schema ∈ document.usedSchemas :=
  List.mem_append_right _ (List.mem_flatMap.mpr ⟨declared, isDeclared, inPlaces⟩)

/-! ## Named models -/

/-- Every named schema is mapped to its model. -/
theorem declaredModels_spec {mapped : Entries String Model}
    (declared : document.declaredModels = .ok mapped) :
    document.schemas.Matches SchemaObject.Maps mapped := by
  apply List.Forall₂.imp _ (Outcome.mapM_eq_ok_iff.mp declared)
  rintro ⟨name, schema⟩ entry step
  obtain ⟨model, isMapped, built⟩ := Outcome.bind_eq_ok_iff.mp step
  cases built
  exact ⟨rfl, SchemaObject.maps_of_ofSchema isMapped⟩

/-- The model of a named schema has the shape of its kind and refers to where the document
points. -/
theorem ready_of_mem_mapped {mapped : Entries String Model}
    (maps : document.schemas.Matches SchemaObject.Maps mapped) {entry : String × Model}
    (member : entry ∈ mapped) :
    entry.2.Shaped ∧ entry.2.RefersWithin document.PointsTo := by
  obtain ⟨schema, inSchemas, isMapped⟩ := maps.exists_left member
  exact ⟨isMapped.shaped, refersWithin_of_maps (mem_usedSchemas_of_schemas inSchemas) isMapped⟩

/-- All settled models are flat and refer to each other or to where the document points. -/
theorem flat_of_settled {mapped : Entries String Model} {reserved : List String}
    (maps : document.schemas.Matches SchemaObject.Maps mapped) {name : String} {model : Model}
    (found : ((hoistDeclared mapped).run ⟨mapped, reserved⟩).2.models.get? name = some model) :
    model.Flat ∧ model.Sourced document.PointsTo
      ((hoistDeclared mapped).run ⟨mapped, reserved⟩).2.models := by
  rcases hoistDeclared_old_or_flat (fun _ member => ready_of_mem_mapped maps member) found with
    ⟨absent, old⟩ | new
  · rw [(Entries.get?_eq_none_iff mapped name).mpr absent] at old
    cases old
  · exact new

/-- Flat models that refer to each other or to a source stay so when the registry grows. -/
theorem flat_of_grows {source wider : String → Prop} {start after : ModelRegistry}
    (flat : ∀ {name model}, start.models.get? name = some model →
      model.Flat ∧ model.Sourced source start.models)
    (grows : start.Grows wider after)
    (narrow : ∀ name, wider name → source name ∨ name ∈ start.models.keys) {name : String}
    {model : Model} (found : after.models.get? name = some model) :
    model.Flat ∧ model.Sourced source after.models := by
  have later : ∀ target, target ∈ start.models.keys → target ∈ after.models.keys :=
    fun target => mem_keys_of_isPrefix grows.keys_isPrefix
  rcases grows.get?_or_added found with old | ⟨isFlat, sourced⟩
  · exact ⟨(flat old).1, (flat old).2.imp fun target => Or.imp_right (later target)⟩
  · refine ⟨isFlat, sourced.imp ?_⟩
    rintro target (fromWider | isKey)
    · exact (narrow target fromWider).imp_right (later target)
    · exact Or.inr isKey

/-! ## Parameters of the components -/

theorem Defines.imp {weak strong : SchemaObject → Model → Prop} {object : ParameterObject}
    {parameter : Parameter} (defines : document.Defines strong object parameter)
    (implies : ∀ schema model, strong schema model → weak schema model) :
    document.Defines weak object parameter := by
  obtain ⟨definition, schema, isDefinition, hasName, hasSchema, here⟩ := defines
  exact ⟨definition, schema, isDefinition, hasName, hasSchema, implies schema _ here⟩

/-- A known parameter of the components is related to the schema of its object. -/
theorem related_of_get? {related : SchemaObject → Model → Prop}
    {parameters : Entries String Parameter}
    (defines : document.parameters.Matches (document.Defines related) parameters)
    {name : String} {object : ParameterObject} {parameter : Parameter} {schema : SchemaObject}
    (inDocument : document.parameters.get? name = some object)
    (known : parameters.get? name = some parameter)
    (hasSchema : document.schemaOf? ParameterObject.schema object = some schema) :
    related schema parameter.model := by
  rcases defines.get?_right inDocument with
    ⟨other, found, definition, own, isDefinition, _, ownSchema, here⟩
  have sameParameter : other = parameter := Option.some.inj (found.symm.trans known)
  have sameSchema : own = schema := by
    simpa [schemaOf?, isDefinition, ownSchema] using hasSchema
  rw [← sameParameter, ← sameSchema]
  exact here

/-- Every parameter of the components is made of what its object defines. -/
theorem declaredParameters_spec {parameters : Entries String Parameter}
    (declared : document.declaredParameters = .ok parameters) :
    document.parameters.Matches (document.Defines SchemaObject.Maps) parameters := by
  apply List.Forall₂.imp _ (Outcome.mapM_eq_ok_iff.mp declared)
  rintro ⟨name, object⟩ entry step
  obtain ⟨definition, resolved, rest⟩ := Outcome.bind_eq_ok_iff.mp step
  obtain ⟨parameter, ofObject, built⟩ := Outcome.bind_eq_ok_iff.mp rest
  cases built
  obtain ⟨hasName, schema, hasSchema, maps⟩ := Parameter.ofObject_spec ofObject
  exact ⟨rfl, definition, schema, definition?_of_resolve resolved, hasName, hasSchema, maps⟩

/-- The parameters of the components have the schemas of their objects. -/
theorem parameterSchemas_matches {related : SchemaObject → Model → Prop}
    {parameters : Entries String Parameter}
    (defines : document.parameters.Matches (document.Defines related) parameters) :
    document.parameterSchemas.Matches (fun schema parameter => related schema parameter.model)
      parameters := by
  unfold parameterSchemas
  generalize document.parameters = objects at defines ⊢
  induction defines with
  | nil => exact .nil
  | @cons left right _ _ heads _ ih =>
      obtain ⟨name, object⟩ := left
      obtain ⟨sameName, definition, schema, isDefinition, _, hasSchema, here⟩ := heads
      have isSchema : document.schemaOf? ParameterObject.schema object = some schema := by
        simp [schemaOf?, isDefinition, hasSchema]
      rw [List.filterMap_cons]
      simp only [isSchema, Option.map_some]
      exact .cons ⟨sameName, here⟩ ih

/-- The model of a declared parameter has the shape of its kind and refers to where the
document points. -/
theorem ready_of_mem_parameters {parameters : Entries String Parameter}
    (defines : document.parameters.Matches (document.Defines SchemaObject.Maps) parameters)
    {entry : String × Parameter} (member : entry ∈ parameters) :
    entry.2.model.Shaped ∧ entry.2.model.RefersWithin document.PointsTo := by
  obtain ⟨schema, inSchemas, maps⟩ := (parameterSchemas_matches defines).exists_left member
  exact ⟨maps.shaped,
    refersWithin_of_maps (mem_usedSchemas_of_parameterSchemas inSchemas) maps⟩

/-- The parameters of the components are hoisted, and the registry grows. -/
theorem hoistParameters_spec {declared : Entries String Parameter}
    (defines : document.parameters.Matches (document.Defines SchemaObject.Maps) declared)
    (owner : String → String) (registry : ModelRegistry) :
    registry.Grows document.PointsTo ((hoistParameters owner declared).run registry).2 ∧
      ∀ later, KeepsFlat ((hoistParameters owner declared).run registry).2.models later →
        document.parameters.Matches (document.Defines (HoistedSchema later))
          ((hoistParameters owner declared).run registry).1 := by
  have gives : Hoist.Gives document.PointsTo (fun _ => True) (hoistParameters owner declared) _ :=
    Hoist.gives_hoistParameters (fun _ member => ready_of_mem_parameters defines member) owner
  obtain ⟨grows, hoists⟩ := gives registry trivial
  refine ⟨grows, fun later keeps => defines.trans (hoists later keeps) ?_⟩
  rintro object parameter hoisted ⟨definition, schema, isDefinition, hasName, hasSchema, maps⟩
    ⟨sameName, inside⟩
  exact ⟨definition, schema, isDefinition, sameName ▸ hasName, hasSchema, _, maps, inside⟩

end Document

/-! ## Operations -/

namespace Definitions

variable {definitions : Definitions}

theorem Gives.mono {others : Definitions} {schema : SchemaObject} {model : Model}
    (gives : definitions.Gives schema model) (document : others.document = definitions.document)
    (parameters : others.parameters = definitions.parameters)
    (models : ∀ {name model}, definitions.models.get? name = some model →
      others.models.get? name = some model) : others.Gives schema model := by
  cases gives with
  | mapped maps => exact .mapped maps
  | declared inDocument known hasSchema =>
      exact .declared (document ▸ inDocument) (parameters ▸ known) (document ▸ hasSchema)
  | flattened maps known => exact .flattened maps (models known)

/-- What an operation is built with has the shape of its kind, and refers to where the
document points or to models that are known. -/
theorem Gives.ready {schema : SchemaObject} {model : Model}
    (gives : definitions.Gives schema model) (used : schema ∈ definitions.document.usedSchemas)
    (flat : ∀ {name model}, definitions.models.get? name = some model →
      model.Flat ∧ model.Sourced definitions.document.PointsTo definitions.models)
    (defines : definitions.document.parameters.Matches
      (definitions.document.Defines (HoistedSchema definitions.models)) definitions.parameters) :
    model.Shaped ∧ model.Sourced definitions.document.PointsTo definitions.models := by
  cases gives with
  | mapped maps =>
      exact ⟨maps.shaped, (Document.refersWithin_of_maps used maps).imp fun _ => Or.inl⟩
  | @declared name object parameter _ inDocument known hasSchema =>
      obtain ⟨raw, maps, inside⟩ := Document.related_of_get? defines inDocument known hasSchema
      exact ⟨inside.plain.shaped, inside.sourced (Document.refersWithin_of_maps used maps)⟩
  | flattened _ known => exact ⟨(flat known).1.shaped, (flat known).2⟩

end Definitions

namespace Draft

/-- Built operations are hoisted, and the registry grows. -/
theorem hoistOperations_spec {definitions : Definitions} {registry : ModelRegistry}
    (models : definitions.models = registry.models)
    (flat : ∀ {name model}, definitions.models.get? name = some model →
      model.Flat ∧ model.Sourced definitions.document.PointsTo definitions.models)
    (defines : definitions.document.parameters.Matches
      (definitions.document.Defines (HoistedSchema definitions.models)) definitions.parameters)
    {built : List Operation} {diagnostics : List Diagnostic}
    (isBuilt : definitions.operations = .ok (built, diagnostics)) :
    registry.Grows (fun name => definitions.document.PointsTo name ∨ name ∈ registry.models.keys)
        ((built.mapM Operation.hoist).run registry).2 ∧
      List.Forall₂
        (definitions.Hoists ((built.mapM Operation.hoist).run registry).2.models)
        definitions.document.declaredOperations
        ((built.mapM Operation.hoist).run registry).1 := by
  have related := Definitions.operations_spec
    (defines.imp fun _ _ here => here.imp fun _ _ _ => trivial) isBuilt
  have ready : ∀ operation ∈ built, ∀ model ∈ operation.places.all,
      model.Shaped ∧ model.Sourced definitions.document.PointsTo registry.models := by
    intro operation member model inOperation
    obtain ⟨declared, isDeclared, _, places⟩ := Entries.exists_left_of_forall₂ related member
    obtain ⟨schema, inPlaces, gives⟩ := places.exists_left model inOperation
    rw [← models]
    exact Definitions.Gives.ready (or_self_iff.mp gives)
      (Document.mem_usedSchemas_of_places isDeclared inPlaces) flat defines
  have gives : Hoist.Gives (fun name => definitions.document.PointsTo name ∨
      name ∈ registry.models.keys) (fun _ => True) (built.mapM Operation.hoist) _ :=
    Hoist.Gives.mapM fun operation member => Hoist.gives_hoistOperation (ready operation member)
  obtain ⟨grows, hoists⟩ := gives registry trivial
  refine ⟨grows, Entries.forall₂_trans related (hoists _ (KeepsFlat.refl _)) ?_⟩
  rintro declared operation hoisted ⟨sameId, places⟩ ⟨keptId, inside⟩
  exact ⟨keptId.trans sameId, places.trans inside (fun _ built _ gives here => ⟨built, gives, here⟩)
    (fun _ built _ gives here => ⟨built, gives, here⟩)⟩

section Stages

variable {document : Document} {mapped : Entries String Model} {reserved : List String}
  {settled known final : ModelRegistry} {owner : String → String}
  {declaredParameters parameters : Entries String Parameter} {built operations : List Operation}
  {diagnostics : List Diagnostic}

/-- From stage to stage the registry grows, and what is hoisted follows from the document. -/
theorem stages_spec (declared : document.declaredModels = .ok mapped)
    (isSettled : ((hoistDeclared mapped).run ⟨mapped, reserved⟩).2 = settled)
    (parametersDeclared : document.declaredParameters = .ok declaredParameters)
    (parametersHoisted : (hoistParameters owner declaredParameters).run settled =
      (parameters, known))
    (operationsBuilt : Definitions.operations ⟨document, known.models, parameters⟩ =
      .ok (built, diagnostics))
    (operationsHoisted : (built.mapM Operation.hoist).run known = (operations, final)) :
    (∀ {name model}, known.models.get? name = some model →
        model.Flat ∧ model.Sourced document.PointsTo known.models) ∧
      settled.Grows document.PointsTo known ∧
      (∀ later, KeepsFlat known.models later →
        document.parameters.Matches (document.Defines (HoistedSchema later)) parameters) ∧
      known.Grows (fun name => document.PointsTo name ∨ name ∈ known.models.keys) final ∧
        List.Forall₂ (Definitions.Hoists ⟨document, known.models, parameters⟩ final.models)
          document.declaredOperations operations := by
  have maps := Document.declaredModels_spec declared
  have flatSettled : ∀ {name model}, settled.models.get? name = some model →
      model.Flat ∧ model.Sourced document.PointsTo settled.models := by
    subst isSettled
    exact Document.flat_of_settled maps
  have parametersSpec := Document.hoistParameters_spec
    (Document.declaredParameters_spec parametersDeclared) owner settled
  rw [parametersHoisted] at parametersSpec
  obtain ⟨growsKnown, parametersLater⟩ := parametersSpec
  have flatKnown : ∀ {name model}, known.models.get? name = some model →
      model.Flat ∧ model.Sourced document.PointsTo known.models :=
    Document.flat_of_grows flatSettled growsKnown fun _ => Or.inl
  have operationsSpec := hoistOperations_spec rfl flatKnown
    (parametersLater _ (KeepsFlat.refl _)) operationsBuilt
  rw [operationsHoisted] at operationsSpec
  exact ⟨flatKnown, growsKnown, parametersLater, operationsSpec⟩

/-- A draft follows from its document if its stages do. -/
theorem follows_of_stages (declared : document.declaredModels = .ok mapped)
    (isSettled : ((hoistDeclared mapped).run ⟨mapped, reserved⟩).2 = settled)
    (parametersDeclared : document.declaredParameters = .ok declaredParameters)
    (parametersHoisted : (hoistParameters owner declaredParameters).run settled =
      (parameters, known))
    (operationsBuilt : Definitions.operations ⟨document, known.models, parameters⟩ =
      .ok (built, diagnostics))
    (operationsHoisted : (built.mapM Operation.hoist).run known = (operations, final))
    (distinct : final.models.keys.Nodup) :
    Draft.Follows ⟨final.models, parameters, operations, diagnostics⟩ document mapped := by
  obtain ⟨flatKnown, growsKnown, parametersLater, growsFinal, operationsHoist⟩ :=
    stages_spec declared isSettled parametersDeclared parametersHoisted operationsBuilt
      operationsHoisted
  have ready : ∀ entry ∈ mapped, entry.2.Shaped ∧ entry.2.RefersWithin document.PointsTo :=
    fun _ member => Document.ready_of_mem_mapped (Document.declaredModels_spec declared) member
  have keeps : KeepsFlat settled.models final.models :=
    growsKnown.keepsFlat.trans growsFinal.keepsFlat
  have isPrefix : mapped.keys <+: final.models.keys := by
    have isPrefixSettled := keys_isPrefix_hoistDeclared ready ⟨mapped, reserved⟩
    rw [isSettled] at isPrefixSettled
    exact (isPrefixSettled.trans growsKnown.keys_isPrefix).trans growsFinal.keys_isPrefix
  have distinctMapped : mapped.keys.Nodup := distinct.sublist isPrefix.sublist
  have settles : Settles mapped ⟨mapped, reserved⟩ settled := by
    rw [← isSettled]
    exact settles_hoistDeclared (fun _ => Entries.get?_eq_some_of_mem distinctMapped)
      distinctMapped ready
  constructor
  · exact declared
  · exact isPrefix
  · intro name raw found
    exact settles.below (Entries.mem_of_get? found) _ keeps
  · intro name model found
    exact Document.flat_of_grows flatKnown growsFinal (fun _ => id) found
  · exact parametersLater _ growsFinal.keepsFlat
  · have mono : ∀ {schema model}, (⟨document, known.models, parameters⟩ : Definitions).Gives
        schema model → (⟨document, final.models, parameters⟩ : Definitions).Gives schema model :=
      fun gives => gives.mono rfl rfl growsFinal.get?_eq_some
    apply List.Forall₂.imp _ operationsHoist
    rintro declaredOperation operation ⟨sameId, places⟩
    exact ⟨sameId, places.imp (fun _ _ here => here.imp fun _ => And.imp_left mono)
      (fun _ _ here => here.imp fun _ => And.imp_left mono)⟩

end Stages

/-- All models of a draft that follows from a document have the shapes of their kinds. -/
theorem Follows.shaped {draft : Draft} {document : Document} {mapped : Entries String Model}
    (follows : draft.Follows document mapped) (distinct : draft.models.keys.Nodup) :
    ∀ model ∈ draft.allModels, model.Shaped := by
  rw [forall_mem_allModels_iff]
  constructor
  · intro entry member
    exact (follows.flat (Entries.get?_eq_some_of_mem distinct member)).1.shaped
  constructor
  · intro entry member
    rcases follows.parameters.exists_left member with ⟨_, _, _, _, _, _, _, _, _, inside⟩
    exact inside.plain.shaped
  · intro operation member model inOperation
    rcases Entries.exists_left_of_forall₂ follows.operations member with
      ⟨declared, _, _, places⟩
    rcases places.exists_left model inOperation with ⟨_, _, ⟨_, _, inside⟩ | ⟨_, _, below⟩⟩
    · exact inside.plain.shaped
    · exact below.flat.shaped

/-- The draft of a document with distinct names of models follows from the document. -/
theorem follows {document : Document} {draft : Draft} (drafted : document.draft = .ok draft)
    (distinct : draft.models.keys.Nodup) :
    ∃ mapped, draft.Follows document mapped := by
  obtain ⟨mapped, declared, rest⟩ := Outcome.bind_eq_ok_iff.mp drafted
  obtain ⟨declaredParameters, parametersDeclared, rest⟩ := Outcome.bind_eq_ok_iff.mp rest
  obtain ⟨built, operationsBuilt, rest⟩ := Outcome.bind_eq_ok_iff.mp rest
  cases rest
  exact ⟨mapped, follows_of_stages declared rfl parametersDeclared rfl operationsBuilt rfl
    distinct⟩

/-- A draft that follows from a document and passed the checks. -/
structure Sound (draft : Draft) (document : Document) (mapped : Entries String Model) : Prop
    extends draft.Follows document mapped where
  distinct : draft.models.keys.Nodup
  resolved : ∀ model ∈ draft.allModels, model.Resolved draft.models
  ranked : Nonempty (ExpansionRank draft.models)

end Draft

/-- A built service comes from a sound draft. -/
theorem Document.exists_sound_of_service {document : Document} {service : Service}
    (built : document.service = .ok service) :
    ∃ draft mapped order, Draft.Sound draft document mapped ∧
      service = draft.ordered document order := by
  obtain ⟨draft, order, drafted, names, references, ordered, rfl⟩ :=
    Document.exists_draft_of_service built
  have distinct := Draft.nodup_keys names
  obtain ⟨mapped, follows⟩ := Draft.follows drafted distinct
  have resolved := (Draft.checkReferences_eq_ok_iff (follows.shaped distinct)).mp references
  exact ⟨draft, mapped, order, ⟨follows, distinct, resolved, exists_expansionRank ordered⟩, rfl⟩

end ApiScaffold
