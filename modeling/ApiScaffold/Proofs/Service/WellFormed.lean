import ApiScaffold.Proofs.Service.Follows

/-!
# Well-formed services

What a built service is like, whatever the document said.  Structs stand at the top of named
models and of output bodies only, every reference has its model, and models that are written
out come to an end.

Generators of code need to know no more about the service than this.
-/

namespace ApiScaffold

/-- A service whose models can be turned into code. -/
structure Service.WellFormed (service : Service) : Prop where
  distinct : service.models.keys.Nodup
  flat : ∀ {name model}, service.models.get? name = some model → model.Flat
  resolved : ∀ {name model}, service.models.get? name = some model →
    model.Resolved service.models
  ranked : Nonempty (ExpansionRank service.models)
  parameters : ∀ entry ∈ service.parameters,
    entry.2.model.Plain ∧ entry.2.model.Resolved service.models
  inside : ∀ operation ∈ service.operations, ∀ model ∈ operation.places.inside,
    model.Plain ∧ model.Resolved service.models
  outputBody : ∀ operation ∈ service.operations, ∀ model ∈ operation.output.body,
    model.Flat ∧ model.Resolved service.models

/-- A sound draft makes a well-formed service. -/
theorem Draft.Sound.wellFormed {draft : Draft} {document : Document}
    {mapped : Entries String Model} (sound : draft.Sound document mapped)
    (order : List (Option String)) : (draft.ordered document order).WellFormed := by
  obtain ⟨resolvedModels, resolvedParameters, resolvedOperations⟩ :=
    (forall_mem_allModels_iff draft).mp sound.resolved
  constructor
  · exact sound.distinct
  · intro name model found
    exact (sound.flat found).1
  · intro name model found
    exact resolvedModels _ (Entries.mem_of_get? found)
  · exact sound.ranked
  · intro entry member
    rcases sound.parameters.exists_left member with
      ⟨_, _, _, _, _, _, _, _, _, hoisted⟩
    exact ⟨hoisted.plain, resolvedParameters entry member⟩
  · intro operation member model isInside
    rcases Entries.exists_left_of_forall₂ sound.operations member with ⟨_, _, _, places⟩
    rcases places.exists_left_inside model isInside with ⟨_, _, _, _, hoisted⟩
    have inAll : model ∈ operation.places.all := List.mem_append_left _ isInside
    exact ⟨hoisted.plain, resolvedOperations operation member model inAll⟩
  · intro operation member model isBody
    rcases Entries.exists_left_of_forall₂ sound.operations member with ⟨_, _, _, places⟩
    rcases places.outputBody.exists_left model isBody with
      ⟨_, _, _, _, hoisted⟩
    have inAll : model ∈ operation.places.all :=
      List.mem_append_right _ (Option.mem_toList.mpr isBody)
    exact ⟨hoisted.flat, resolvedOperations operation member model inAll⟩

/-- Every service that is built is well-formed. -/
theorem Document.wellFormed_of_service {document : Document} {service : Service}
    (built : document.service = .ok service) : service.WellFormed := by
  obtain ⟨draft, mapped, order, sound, rfl⟩ := Document.exists_sound_of_service built
  exact sound.wellFormed order

namespace Service

variable {service : Service}

/-- A name of a model is found. -/
theorem model_of_get? {name : String} {target : Model}
    (found : service.models.get? name = some target) :
    service.model (some name) = .ok target := by
  simp [model, found]

/-- A resolved reference has a target, and other models are their own. -/
theorem WellFormed.exists_dereference (wellFormed : service.WellFormed) {model : Model}
    (flat : model.Flat) (resolved : model.Resolved service.models) :
    ∃ target, service.dereference model = .ok target ∧ target.Flat ∧
      target.Resolved service.models := by
  by_cases isReference : model.isReference = true
  · rcases flat.shaped.exists_reference isReference with ⟨name, description, rfl⟩
    have isKey := (Model.refersWithin_reference name description).mp resolved
    rcases Entries.mem_keys_iff.mp isKey with ⟨target, found⟩
    refine ⟨target, ?_, wellFormed.flat found, wellFormed.resolved found⟩
    rw [dereference, if_pos isReference]
    exact model_of_get? found
  · exact ⟨model, by rw [dereference, if_neg isReference], flat, resolved⟩

end Service

end ApiScaffold
