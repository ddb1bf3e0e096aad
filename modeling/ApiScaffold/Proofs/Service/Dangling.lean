import ApiScaffold.Proofs.Service.Follows

/-!
# Dangling pointers

A pointer dangles if no schema of the components has its name.  The check of references does
not look at pointers.  It looks at the hoisted models and asks for a model of the name, which
may be a struct that was given the name by hoisting.

So a dangling pointer is rejected exactly if hoisting gave its name to no struct.
-/

namespace ApiScaffold

namespace Draft.Follows

variable {draft : Draft} {document : Document} {mapped : Entries String Model}

/-- What stands at a place of an operation refers to where the document points and to named
models. -/
theorem sourced_of_hoisted (follows : draft.Follows document mapped) {schema : SchemaObject}
    (used : schema ∈ document.usedSchemas) {built model : Model}
    (gives : (draft.definitions document).Gives schema built)
    (hoisted : Model.HoistedIn draft.models built model ∨
      Model.HoistedBelow draft.models built model) :
    model.Sourced document.PointsTo draft.models := by
  rcases gives.ready used follows.flat follows.parameters with ⟨_, sourced⟩
  have twice : model.RefersWithin fun name =>
      (document.PointsTo name ∨ name ∈ draft.models.keys) ∨ name ∈ draft.models.keys := by
    rcases hoisted with inside | below
    · exact inside.sourced sourced
    · exact below.sourced sourced
  intro name refers
  rcases twice name refers with either | isKey
  · exact either
  · exact Or.inr isKey

/-- All models of a draft refer to where the document points and to named models. -/
theorem sourced (follows : draft.Follows document mapped) (distinct : draft.models.keys.Nodup) :
    ∀ model ∈ draft.allModels, model.Sourced document.PointsTo draft.models := by
  rw [forall_mem_allModels_iff]
  constructor
  · intro entry member
    exact (follows.flat (Entries.get?_eq_some_of_mem distinct member)).2
  constructor
  · intro entry member
    rcases (Document.parameterSchemas_matches follows.parameters).exists_left member with
      ⟨schema, inSchemas, raw, maps, inside⟩
    apply inside.sourced
    exact Document.refersWithin_of_maps
      (Document.mem_usedSchemas_of_parameterSchemas inSchemas) maps
  · intro operation member model inOperation
    rcases Entries.exists_left_of_forall₂ follows.operations member with
      ⟨declared, isDeclared, _, places⟩
    rcases places.exists_left model inOperation with ⟨schema, inPlaces, hoisted⟩
    have used := Document.mem_usedSchemas_of_places isDeclared inPlaces
    rcases hoisted with ⟨built, gives, inside⟩ | ⟨built, gives, below⟩
    · exact follows.sourced_of_hoisted used gives (Or.inl inside)
    · exact follows.sourced_of_hoisted used gives (Or.inr below)

/-- Pointers of a schema lead to named models if its hoisted model is resolved. -/
theorem named_of_hoistedSchema {schema : SchemaObject} {model : Model}
    (registered : ∀ {name model}, draft.models.get? name = some model →
      model.Resolved draft.models)
    (hoisted : HoistedSchema draft.models schema model) (resolved : model.Resolved draft.models) :
    ∀ pointer ∈ schema.pointers, pointerName pointer ∈ draft.models.keys := by
  rcases hoisted with ⟨raw, maps, inside⟩
  exact maps.refersWithin_iff.mp (inside.refersWithin registered resolved)

/-- Pointers of a schema lead to named models if what an operation was built with is
resolved. -/
theorem named_of_gives (follows : draft.Follows document mapped)
    (registered : ∀ {name model}, draft.models.get? name = some model →
      model.Resolved draft.models)
    {schema : SchemaObject} {built : Model}
    (gives : (draft.definitions document).Gives schema built)
    (resolved : built.Resolved draft.models) :
    ∀ pointer ∈ schema.pointers, pointerName pointer ∈ draft.models.keys := by
  cases gives with
  | mapped maps => exact maps.refersWithin_iff.mp resolved
  | declared inDocument known hasSchema =>
      exact named_of_hoistedSchema registered
        (Document.related_of_get? follows.parameters inDocument known hasSchema) resolved
  | @flattened _ name description _ maps known =>
      have isKey : name ∈ draft.models.keys := Entries.mem_keys_iff.mpr ⟨_, known⟩
      exact maps.refersWithin_iff.mp ((Model.refersWithin_reference _ _).mpr isKey)

/-- If all models of a draft are resolved, all pointers lead to named models. -/
theorem named_of_resolved (follows : draft.Follows document mapped)
    (distinct : draft.models.keys.Nodup)
    (resolved : ∀ model ∈ draft.allModels, model.Resolved draft.models) :
    ∀ schema ∈ document.usedSchemas, ∀ pointer ∈ schema.pointers,
      pointerName pointer ∈ draft.models.keys := by
  rcases (forall_mem_allModels_iff draft).mp resolved with ⟨inModels, inParameters, inOperations⟩
  have registered : ∀ {name model}, draft.models.get? name = some model →
      model.Resolved draft.models :=
    fun found => inModels _ (Entries.mem_of_get? found)
  have distinctMapped : mapped.keys.Nodup := distinct.sublist follows.keys_isPrefix.sublist
  intro schema used
  simp only [Document.usedSchemas, List.mem_append] at used
  rcases used with (named | ofParameter) | ofOperation
  · rcases List.mem_map.mp named with ⟨entry, inSchemas, rfl⟩
    rcases (Document.declaredModels_spec follows.declared).exists_right inSchemas with
      ⟨raw, inMapped, maps⟩
    rcases follows.below (Entries.get?_eq_some_of_mem distinctMapped inMapped) with
      ⟨hoisted, found, below⟩
    exact maps.refersWithin_iff.mp (below.refersWithin registered (registered found))
  · rcases List.mem_map.mp ofParameter with ⟨entry, inSchemas, rfl⟩
    rcases (Document.parameterSchemas_matches follows.parameters).exists_right inSchemas with
      ⟨parameter, member, hoisted⟩
    exact named_of_hoistedSchema registered hoisted (inParameters _ member)
  · rcases List.mem_flatMap.mp ofOperation with ⟨declared, isDeclared, inPlaces⟩
    rcases Entries.exists_left_of_forall₂ follows.operations.flip isDeclared with
      ⟨operation, member, _, places⟩
    rcases places.flip.exists_left schema inPlaces with ⟨model, inOperation, hoisted⟩
    have within := inOperations operation member model inOperation
    rcases hoisted with ⟨built, gives, inside⟩ | ⟨built, gives, below⟩
    · exact follows.named_of_gives registered gives (inside.refersWithin registered within)
    · exact follows.named_of_gives registered gives (below.refersWithin registered within)

end Draft.Follows

/-- If models cannot be put in order, they lead back to themselves. -/
theorem exists_cycle_of_orderModels {models : Entries String Model} {failure : Failure}
    (failed : orderModels models = .error failure) : ∃ path, failure = .cycle path := by
  unfold orderModels at failed
  cases expanded : (expansionGraph models).sort .reject with
  | error path =>
      rw [expanded] at failed
      cases failed
      exact ⟨_, rfl⟩
  | ok listed =>
      rw [expanded] at failed
      cases sorted : (referenceGraph models).sort .skip with
      | error path =>
          rw [sorted] at failed
          cases failed
          exact ⟨_, rfl⟩
      | ok order =>
          rw [sorted] at failed
          cases failed

/-- A document whose names are in order is rejected for a name without a model exactly if its
draft fails the check of references. -/
theorem Draft.exists_dangling_iff {draft : Draft} {document : Document}
    (drafted : document.draft = .ok draft) (names : draft.checkNames = .ok ()) (name : String) :
    (∃ failure, document.service = .error failure ∧ failure.Dangling name) ↔
      ∃ failure, draft.checkReferences = .error failure ∧ failure.Dangling name := by
  have completes : document.service = draft.checkReferences >>= fun _ =>
      orderModels draft.models >>= fun order => pure (draft.ordered document order) := by
    rw [Document.service_eq, drafted]
    change (draft.checkNames >>= fun _ => _) = _
    rw [names]
    rfl
  rw [completes]
  constructor
  · rintro ⟨failure, failed, dangling⟩
    rcases Outcome.bind_eq_error_iff.mp failed with here | ⟨_, _, later⟩
    · exact ⟨failure, here, dangling⟩
    · rcases Outcome.bind_eq_error_iff.mp later with notOrdered | ⟨_, _, impossible⟩
      · rcases exists_cycle_of_orderModels notOrdered with ⟨path, rfl⟩
        cases dangling
      · cases impossible
  · rintro ⟨failure, failed, dangling⟩
    exact ⟨failure, Outcome.bind_eq_error_iff.mpr (Or.inl failed), dangling⟩

/-- A document whose names are in order is rejected for a dangling pointer exactly if it has one
whose name was not given to a struct by hoisting. -/
theorem Document.rejects_dangling_iff {document : Document} {draft : Draft}
    (drafted : document.draft = .ok draft) (names : draft.checkNames = .ok ()) :
    ∃ invented, draft.models.keys = document.schemas.keys ++ invented ∧
      ((∃ failure name, document.service = .error failure ∧ failure.Dangling name) ↔
        ∃ schema ∈ document.usedSchemas, ∃ pointer ∈ schema.pointers,
          pointerName pointer ∉ document.schemas.keys ∧ pointerName pointer ∉ invented) := by
  have distinct := Draft.nodup_keys names
  rcases Draft.follows drafted distinct with ⟨mapped, follows⟩
  have shaped := follows.shaped distinct
  rcases follows.keys_isPrefix with ⟨invented, isKeys⟩
  rw [← (Document.declaredModels_spec follows.declared).keys_eq] at isKeys
  refine ⟨invented, isKeys.symm, ?_⟩
  simp only [← not_or, ← List.mem_append, isKeys]
  constructor
  · rintro ⟨failure, name, failed, dangling⟩
    rcases (Draft.exists_dangling_iff drafted names name).mp ⟨failure, failed, dangling⟩ with
      ⟨cause, checkFailed, _⟩
    rcases Draft.exists_dangling_of_draft shaped checkFailed with
      ⟨model, inDraft, missing, refers, isMissing, _⟩
    rcases follows.sourced distinct model inDraft missing refers with
      ⟨schema, used, pointer, member, rfl⟩ | isKey
    · exact ⟨schema, used, pointer, member, isMissing⟩
    · exact absurd isKey isMissing
  · rintro ⟨schema, used, pointer, member, isMissing⟩
    cases checked : draft.checkReferences with
    | ok _ =>
        have resolved := (Draft.checkReferences_eq_ok_iff shaped).mp checked
        exact absurd (follows.named_of_resolved distinct resolved schema used pointer member)
          isMissing
    | error failure =>
        rcases Draft.exists_dangling_of_draft shaped checked with
          ⟨_, _, name, _, _, dangling⟩
        rcases (Draft.exists_dangling_iff drafted names name).mpr ⟨failure, checked, dangling⟩ with
          ⟨failure, failed, here⟩
        exact ⟨failure, name, failed, here⟩

/-- A schema with a nested struct, and with a pointer. -/
def pointerDocument (target : String) : Document where
  openapi := "3.0.0"
  info := none
  paths := []
  components := some {
    schemas := some [("Widget", .object
      [("owner", .object [("id", .text)]), ("peer", .pointer target)])]
    parameters := none, responses := none, requestBodies := none, headers := none }

/-- A pointer to a name that nothing has is rejected. -/
theorem rejects_dangling_pointer :
    ∃ failure name, (pointerDocument "#/components/schemas/Missing").service = .error failure ∧
      failure.Dangling name := by
  have checked : (pointerDocument "#/components/schemas/Missing").draft.succeedsWith
      (fun draft => draft.checkNames.succeedsWith (fun _ => true) &&
        !draft.models.keys.contains "Missing") = true := by
    decide +kernel
  rcases Outcome.succeedsWith_iff.mp checked with ⟨draft, drafted, tested⟩
  rcases Bool.and_eq_true_iff.mp tested with ⟨namesPass, isMissing⟩
  rcases Outcome.succeedsWith_iff.mp namesPass with ⟨_, names, _⟩
  rcases Document.rejects_dangling_iff drafted names with ⟨invented, isKeys, rejects⟩
  have dangles : ∃ schema ∈ (pointerDocument "#/components/schemas/Missing").usedSchemas,
      ∃ pointer ∈ schema.pointers, pointerName pointer = "Missing" := by
    decide +kernel
  rcases dangles with ⟨schema, used, pointer, member, isName⟩
  have missing : "Missing" ∉ draft.models.keys := by simpa using isMissing
  rw [isKeys, List.mem_append, not_or, ← isName] at missing
  exact rejects.mpr ⟨schema, used, pointer, member, missing⟩

/-- A pointer to the name that hoisting gives to a struct is not rejected. -/
theorem exists_service_with_dangling_pointer :
    ∃ service, (pointerDocument "#/components/schemas/WidgetOwner").service = .ok service ∧
      ∃ schema ∈ (pointerDocument "#/components/schemas/WidgetOwner").usedSchemas,
        ∃ pointer ∈ schema.pointers, pointerName pointer ∉
          (pointerDocument "#/components/schemas/WidgetOwner").schemas.keys := by
  have passes : (pointerDocument "#/components/schemas/WidgetOwner").draft.succeedsWith
      (fun draft => draft.passes (fun _ => 0) && true) = true := by
    decide +kernel
  rcases Document.exists_service_of_test passes with ⟨draft, order, built, _⟩
  refine ⟨_, built, ?_⟩
  decide +kernel

end ApiScaffold
