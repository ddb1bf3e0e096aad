import ApiScaffold.Proofs.Service.Follows
import ApiScaffold.Proofs.Service.HoistedMeaning

/-!
# The meaning of a service

Hoisting gives names to nested structs, but it changes no meaning.  Every model of a service
means the same among the models of the service as the model of its schema means among the
models of the schemas as they are declared.  So no named model is overwritten by a hoisted
struct, and structs share a name only if they mean the same.
-/

namespace ApiScaffold

/-- A model means the same as the model of a schema, which is the same at every path. -/
def MeansSchema (models mapped : Entries String Model) (schema : SchemaObject) (model : Model) :
    Prop :=
  ∃ raw, (∀ path, Model.ofSchema schema path = .ok raw) ∧
    Model.SameMeaning models mapped model raw

/-- All schema pointers that are met name schemas of the document. -/
def Document.PointersNamed (document : Document) : Prop :=
  ∀ schema ∈ document.usedSchemas, ∀ pointer ∈ schema.pointers,
    pointerName pointer ∈ document.schemas.keys

namespace Draft

variable {draft : Draft} {document : Document} {mapped : Entries String Model}

/-- The named models of a draft are hoisted forms of those that were declared. -/
theorem Sound.hoistedFrom (sound : draft.Sound document mapped)
    (named : document.PointersNamed) : HoistedFrom mapped draft.models := by
  have maps := Document.declaredModels_spec sound.declared
  constructor
  · exact sound.below
  · intro name raw found target refers
    obtain ⟨_, within⟩ := Document.ready_of_mem_mapped maps (Entries.mem_of_get? found)
    obtain ⟨schema, used, pointer, member, isName⟩ := within target refers
    have isKey := named schema used pointer member
    rw [isName, maps.keys_eq] at isKey
    exact isKey
  · exact sound.ranked

/-- The named models of a draft are their own hoisted forms. -/
theorem Sound.hoistedFrom_self (sound : draft.Sound document mapped) :
    HoistedFrom draft.models draft.models := by
  obtain ⟨resolved, _⟩ := (forall_mem_allModels_iff draft).mp sound.resolved
  constructor
  · intro name model found
    exact ⟨model, found, (sound.flat found).1.hoistedBelow⟩
  · intro name model found
    exact resolved _ (Entries.mem_of_get? found)
  · exact sound.ranked

/-- The model of a used schema refers to declared models only. -/
theorem Sound.resolved_of_maps (sound : draft.Sound document mapped)
    (named : document.PointersNamed) {schema : SchemaObject}
    (used : schema ∈ document.usedSchemas) {raw : Model} (maps : schema.Maps raw) :
    raw.Resolved mapped := by
  have sameKeys := (Document.declaredModels_spec sound.declared).keys_eq
  rw [Model.Resolved, maps.refersWithin_iff]
  intro pointer member
  exact sameKeys ▸ named schema used pointer member

/-- The hoisted model of a used schema means the same as its model. -/
theorem Sound.means_of_hoistedSchema (sound : draft.Sound document mapped)
    (named : document.PointersNamed) {schema : SchemaObject}
    (used : schema ∈ document.usedSchemas) {model : Model}
    (hoisted : HoistedSchema draft.models schema model) :
    MeansSchema draft.models mapped schema model := by
  obtain ⟨raw, maps, inside⟩ := hoisted
  exact ⟨raw, maps.ofSchema_eq_ok,
    inside.sameMeaning (sound.hoistedFrom named) (sound.resolved_of_maps named used maps)⟩

/-- What an operation was built with means the same as the model of the schema, if it is not
that model itself. -/
theorem Sound.means_or_maps_of_gives (sound : draft.Sound document mapped)
    (named : document.PointersNamed) {schema : SchemaObject}
    (used : schema ∈ document.usedSchemas) {built : Model}
    (gives : (draft.definitions document).Gives schema built) :
    schema.Maps built ∨
      MeansSchema draft.models mapped schema built ∧ built.Resolved draft.models := by
  obtain ⟨resolvedModels, resolvedParameters, _⟩ :=
    (forall_mem_allModels_iff draft).mp sound.resolved
  cases gives with
  | mapped maps => exact Or.inl maps
  | @declared name object parameter _ inDocument known hasSchema =>
      right
      have hoisted := Document.related_of_get? sound.parameters inDocument known hasSchema
      exact ⟨sound.means_of_hoistedSchema named used hoisted,
        resolvedParameters _ (Entries.mem_of_get? known)⟩
  | @flattened _ name description _ maps known =>
      right
      have resolved := sound.resolved_of_maps named used maps
      have isKey := (Model.refersWithin_reference name description).mp resolved
      rcases Entries.mem_keys_iff.mp isKey with ⟨raw, found⟩
      obtain ⟨model, foundModel, below⟩ := sound.below found
      have same : model = built := Option.some.inj (foundModel.symm.trans known)
      subst same
      have hoistedFrom := sound.hoistedFrom named
      exact ⟨⟨_, maps.ofSchema_eq_ok,
          (below.sameMeaning hoistedFrom (hoistedFrom.resolved found)).reference_right found _⟩,
        resolvedModels _ (Entries.mem_of_get? known)⟩

/-- What an operation was built with means the same as the model of the schema after it is
hoisted. -/
theorem Sound.means_of_gives (sound : draft.Sound document mapped)
    (named : document.PointersNamed) {schema : SchemaObject}
    (used : schema ∈ document.usedSchemas) {built model : Model}
    (gives : (draft.definitions document).Gives schema built)
    (hoisted : Model.HoistedIn draft.models built model ∨
      Model.HoistedBelow draft.models built model) :
    MeansSchema draft.models mapped schema model := by
  have sameMeaning : ∀ {others : Entries String Model}, HoistedFrom others draft.models →
      built.Resolved others → Model.SameMeaning draft.models others model built := by
    intro others hoistedFrom resolved
    rcases hoisted with inside | below
    · exact inside.sameMeaning hoistedFrom resolved
    · exact below.sameMeaning hoistedFrom resolved
  rcases sound.means_or_maps_of_gives named used gives with
    maps | ⟨⟨raw, isMapped, same⟩, resolved⟩
  · exact ⟨built, maps.ofSchema_eq_ok,
      sameMeaning (sound.hoistedFrom named) (sound.resolved_of_maps named used maps)⟩
  · exact ⟨raw, isMapped, (sameMeaning sound.hoistedFrom_self resolved).trans same⟩

end Draft

/-- Hoisting keeps every meaning: that of the named models, of the parameters of the
components, and of everything in an operation. -/
theorem Document.service_keeps_meaning {document : Document} {service : Service}
    (built : document.service = .ok service) (named : document.PointersNamed) :
    ∃ mapped, document.declaredModels = .ok mapped ∧
      (∀ name ∈ document.schemas.keys, ∃ raw model, mapped.get? name = some raw ∧
        service.models.get? name = some model ∧
          Model.SameMeaning service.models mapped model raw) ∧
      document.parameterSchemas.Matches
        (fun schema parameter => MeansSchema service.models mapped schema parameter.model)
        service.parameters ∧
      List.Forall₂ (fun declared operation => (document.places declared).Related
          (MeansSchema service.models mapped) (MeansSchema service.models mapped)
          operation.places)
        document.declaredOperations service.operations := by
  obtain ⟨draft, mapped, order, sound, rfl⟩ := Document.exists_sound_of_service built
  have hoistedFrom := sound.hoistedFrom named
  refine ⟨mapped, sound.declared, ?_, ?_, ?_⟩
  · intro name isKey
    have maps := Document.declaredModels_spec sound.declared
    rw [maps.keys_eq] at isKey
    rcases Entries.mem_keys_iff.mp isKey with ⟨raw, found⟩
    obtain ⟨model, foundModel, below⟩ := sound.below found
    exact ⟨raw, model, found, foundModel,
      below.sameMeaning hoistedFrom (hoistedFrom.resolved found)⟩
  · have used : ∀ entry ∈ document.parameterSchemas, entry.2 ∈ document.usedSchemas :=
      fun entry => Document.mem_usedSchemas_of_parameterSchemas
    apply ((Document.parameterSchemas_matches sound.parameters).and_left used).imp
    rintro schema parameter ⟨isUsed, hoisted⟩
    exact sound.means_of_hoistedSchema named isUsed hoisted
  · have used : ∀ declared ∈ document.declaredOperations,
        ∀ schema ∈ (document.places declared).all, schema ∈ document.usedSchemas :=
      fun declared isDeclared schema => Document.mem_usedSchemas_of_places isDeclared
    apply List.Forall₂.imp _ ((List.forall₂_and_left _ _).mpr ⟨used, sound.operations⟩)
    rintro declared operation ⟨areUsed, _, places⟩
    apply (places.and_left areUsed).imp
    · rintro schema model ⟨isUsed, given, gives, inside⟩
      exact sound.means_of_gives named isUsed gives (Or.inl inside)
    · rintro schema model ⟨isUsed, given, gives, below⟩
      exact sound.means_of_gives named isUsed gives (Or.inr below)

/-- Herds of animals: a struct within a struct is given twice, animals hold animals, and the
output of the only operation is written out. -/
def herdDocument : Document where
  openapi := "3.0.0"
  info := none
  paths := [("/herds", {
    summary := none, description := none, parameters := none
    operations := [(.get, {
      tags := none, summary := none, description := none, operationId := some "herds"
      parameters := some
        [⟨some "#/components/parameters/Filter", none, none, none, none, none, none⟩]
      requestBody := none
      responses := some [("200", ⟨none, none, none, some
        [("application/json", ⟨some (.pointer "#/components/schemas/Herd")⟩)]⟩)] })] })]
  components := some {
    schemas := some
      [("Animal", .object
        [("keeper", .object [("id", .text)]), ("Keeper", .object [("id", .text)]),
          ("children", .array (.pointer "#/components/schemas/Animal"))]),
        ("Herd", .array (.object [("animal", .pointer "#/components/schemas/Animal")]))]
    parameters := some
      [("Filter", ⟨none, some "filter", some "query", none, none, none,
        some (.object [("id", .text)])⟩)]
    responses := none, requestBodies := none, headers := none }

/-- An animal means the same before and after its keepers got a name. -/
theorem service_keeps_meaning_of_herd :
    ∃ service mapped raw model, herdDocument.service = .ok service ∧
      herdDocument.PointersNamed ∧ herdDocument.declaredModels = .ok mapped ∧
        mapped.get? "Animal" = some raw ∧ service.models.get? "Animal" = some model ∧
          Model.SameMeaning service.models mapped model raw := by
  have passes : herdDocument.draft.succeedsWith
      (fun draft => draft.passes (fun _ => 0) && true) = true := by
    decide +kernel
  obtain ⟨draft, order, built, _⟩ := Document.exists_service_of_test passes
  have named : herdDocument.PointersNamed := by
    unfold Document.PointersNamed
    decide +kernel
  obtain ⟨mapped, declared, models, _, _⟩ := Document.service_keeps_meaning built named
  obtain ⟨raw, model, found, foundModel, same⟩ := models "Animal" (by decide +kernel)
  exact ⟨_, mapped, raw, model, built, named, declared, found, foundModel, same⟩

end ApiScaffold
