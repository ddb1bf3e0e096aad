import ApiScaffold.Proofs.Model.Pointers
import ApiScaffold.Proofs.Service.Expansion
import ApiScaffold.Proofs.Service.Operations
import ApiScaffold.Proofs.Service.Settling

/-!
# Drafts of services

A service is drafted first and checked afterwards.  The draft has all models, parameters and
operations with their structs hoisted; the checks only decide whether it becomes a service.

The check of references passes exactly if every model of the draft is resolved; otherwise it
names a reference without a model and the place where it stands.
-/

namespace ApiScaffold

/-- A service before it is checked. -/
structure Draft where
  models : Entries String Model
  parameters : Entries String Parameter
  operations : List Operation
  diagnostics : List Diagnostic

/-- The draft of the service of a document. -/
def Document.draft (document : Document) : Outcome Draft := do
  let declared ← document.declaredModels
  let settled := ((hoistDeclared declared).run ⟨declared, document.operationTypeNames⟩).2
  let declaredParameters ← document.declaredParameters
  let known :=
    (hoistParameters (fun name => Naming.typeName name ++ "Parameter") declaredParameters).run
      settled
  let built ← Definitions.operations ⟨document, known.2.models, known.1⟩
  let final := (built.1.mapM Operation.hoist).run known.2
  pure ⟨final.2.models, known.1, final.1, built.2⟩

namespace Draft

/-- Check that names are unique as type names. -/
def checkNames (draft : Draft) : Outcome Unit := do
  let typeNames := draft.models.keys.map Naming.typeName
  checkModelNames typeNames
  checkOperationNames typeNames [] draft.operations

/-- Check that every reference has a model. -/
def checkReferences (draft : Draft) : Outcome Unit := do
  draft.models.forM fun (name, model) => ApiScaffold.checkReferences draft.models name model
  draft.parameters.forM fun (name, parameter) =>
    ApiScaffold.checkReferences draft.models ("parameters." ++ name) parameter.model
  draft.operations.forM (Operation.checkReferences draft.models)

/-- The service that a draft becomes with an order of its models. -/
def ordered (draft : Draft) (document : Document) (order : List (Option String)) : Service where
  models := draft.models
  parameters := draft.parameters
  operations := draft.operations
  diagnostics := draft.diagnostics
  modelOrder := order.filterMap id
  title := document.info.bind InfoObject.title
  version := document.info.bind InfoObject.version

/-- Check a draft and put its models in order. -/
def complete (draft : Draft) (document : Document) : Outcome Service := do
  draft.checkNames
  draft.checkReferences
  let order ← orderModels draft.models
  pure (draft.ordered document order)

end Draft

/-- A service is drafted first and completed afterwards. -/
theorem Document.service_eq (document : Document) :
    document.service = document.draft >>= fun draft => draft.complete document := by
  simp only [Document.service, Document.draft, Draft.complete, Draft.checkNames,
    Draft.checkReferences, Draft.ordered, bind_assoc, pure_bind]
  rfl

/-- A built service is an ordered draft that passed all checks. -/
theorem Document.exists_draft_of_service {document : Document} {service : Service}
    (built : document.service = .ok service) :
    ∃ draft order, document.draft = .ok draft ∧ draft.checkNames = .ok () ∧
      draft.checkReferences = .ok () ∧ orderModels draft.models = .ok order ∧
        service = draft.ordered document order := by
  rw [Document.service_eq] at built
  obtain ⟨draft, drafted, rest⟩ := Outcome.bind_eq_ok_iff.mp built
  obtain ⟨_, names, rest⟩ := Outcome.bind_eq_ok_iff.mp rest
  obtain ⟨_, references, rest⟩ := Outcome.bind_eq_ok_iff.mp rest
  obtain ⟨order, isOrder, rest⟩ := Outcome.bind_eq_ok_iff.mp rest
  cases rest
  exact ⟨draft, order, drafted, names, references, isOrder, rfl⟩

/-- Whether a draft passes all checks, where ranks of models show that what is written out
comes to an end. -/
def Draft.passes (draft : Draft) (rank : String → Nat) : Bool :=
  draft.checkNames.isOk && draft.checkReferences.isOk &&
    draft.models.all fun entry => entry.2.isStruct ||
      (expansionTargets draft.models entry.2).all fun target => rank target < rank entry.1

/-- A draft that passes all checks becomes a service. -/
theorem Document.exists_service_of_passes {document : Document} {draft : Draft}
    {rank : String → Nat} (drafted : document.draft = .ok draft)
    (passes : draft.passes rank = true) :
    ∃ order, document.service = .ok (draft.ordered document order) := by
  simp only [Draft.passes, Bool.and_eq_true, List.all_eq_true, Bool.or_eq_true,
    decide_eq_true_eq] at passes
  obtain ⟨⟨names, references⟩, falls⟩ := passes
  have isOrdered : ∃ order, orderModels draft.models = .ok order := by
    apply exists_orderModels_of_rank
    intro entry member noStruct
    exact (falls entry member).resolve_left (by simp [noStruct])
  obtain ⟨order, ordered⟩ := isOrdered
  refine ⟨order, ?_⟩
  rw [Document.service_eq, drafted]
  cases checkedNames : draft.checkNames with
  | error failure => simp [checkedNames, Except.isOk, Except.toBool] at names
  | ok _ =>
      cases checkedReferences : draft.checkReferences with
      | error failure => simp [checkedReferences, Except.isOk, Except.toBool] at references
      | ok _ =>
          simp only [Draft.complete, bind, Except.bind, checkedNames, checkedReferences, ordered]
          rfl

/-- A document whose draft passes all checks has a service, and what is tested of the draft
holds of the service. -/
theorem Document.exists_service_of_test {document : Document} {rank : String → Nat}
    {test : Draft → Bool}
    (passes : document.draft.succeedsWith
      (fun draft => draft.passes rank && test draft) = true) :
    ∃ draft order, document.service = .ok (draft.ordered document order) ∧
      test draft = true := by
  rcases Outcome.succeedsWith_iff.mp passes with ⟨draft, drafted, checked⟩
  rcases Bool.and_eq_true_iff.mp checked with ⟨isChecked, tested⟩
  rcases Document.exists_service_of_passes drafted isChecked with ⟨order, built⟩
  exact ⟨draft, order, built, tested⟩

/-! ## Distinct names -/

/-- No item is repeated exactly if all items differ. -/
theorem firstRepeated?_eq_none_iff (seen names : List String) :
    firstRepeated? seen names = none ↔ names.Nodup ∧ ∀ name ∈ names, name ∉ seen := by
  induction names generalizing seen with
  | nil => simp [firstRepeated?]
  | cons name rest ih =>
      by_cases repeated : name ∈ seen
      · simp [firstRepeated?, repeated]
      · simp only [firstRepeated?, List.contains_iff_mem, repeated, if_false, ih,
          List.nodup_cons, List.mem_cons, not_or]
        constructor
        · rintro ⟨distinct, others⟩
          constructor
          · exact ⟨fun inRest => (others name inRest).1 rfl, distinct⟩
          · rintro other (rfl | member)
            · exact repeated
            · exact (others other member).2
        · rintro ⟨⟨absent, distinct⟩, others⟩
          refine ⟨distinct, fun other member => ⟨?_, others other (Or.inr member)⟩⟩
          rintro rfl
          exact absent member

theorem checkModelNames_eq_ok_iff (typeNames : List String) :
    checkModelNames typeNames = .ok () ↔ typeNames.Nodup := by
  have unique := firstRepeated?_eq_none_iff [] typeNames
  unfold checkModelNames
  cases first : firstRepeated? [] typeNames with
  | none => simpa [first] using unique
  | some name => simpa [first] using unique

/-- The type names of models differ in a draft that passed the check. -/
theorem Draft.nodup_typeNames {draft : Draft} (names : draft.checkNames = .ok ()) :
    (draft.models.keys.map Naming.typeName).Nodup := by
  obtain ⟨_, models, _⟩ := Outcome.bind_eq_ok_iff.mp names
  exact (checkModelNames_eq_ok_iff _).mp models

/-- The names of models differ in a draft that passed the check. -/
theorem Draft.nodup_keys {draft : Draft} (names : draft.checkNames = .ok ()) :
    draft.models.keys.Nodup :=
  List.Nodup.of_map Naming.typeName (Draft.nodup_typeNames names)

/-! ## Resolved references -/

/-- A failure that says of a name at a place that no model has it. -/
def Failure.Dangling (name : String) : Failure → Prop
  | .unresolvedReference (some reference) (some _) => reference = name
  | .operation _ (some _) (some _) (some (.unresolvedReference (some reference) (some _))) =>
      reference = name
  | _ => False

theorem checkReferences_eq_ok_iff (models : Entries String Model) (context : String)
    {model : Model} (shaped : model.Shaped) :
    checkReferences models context model = .ok () ↔ model.Resolved models := by
  unfold checkReferences
  cases found : model.references.find? fun name => (name.bind models.get?).isNone with
  | none =>
      rw [List.find?_eq_none] at found
      constructor
      · intro _ name refers
        have known := found (some name) refers
        exact (Entries.get?_isSome_iff models name).mp
          (by simpa [Option.isSome_iff_ne_none] using known)
      · intro _
        rfl
  | some name =>
      constructor
      · intro impossible
        cases impossible
      · intro resolved
        obtain ⟨known, rfl⟩ := shaped.exists_name (List.mem_of_find?_eq_some found)
        have isKey := resolved known (List.mem_of_find?_eq_some found)
        have missing := List.find?_some found
        rw [Option.bind_some, Option.isNone_iff_eq_none, Entries.get?_eq_none_iff] at missing
        exact absurd isKey missing

/-- The check of one model fails for a reference in it that has no model. -/
theorem exists_dangling_of_checkReferences {models : Entries String Model} {context : String}
    {model : Model} (shaped : model.Shaped) {failure : Failure}
    (failed : checkReferences models context model = .error failure) :
    ∃ name, some name ∈ model.references ∧ name ∉ models.keys ∧
      failure = .unresolvedReference (some name) (some context) := by
  unfold checkReferences at failed
  cases found : model.references.find? fun name => (name.bind models.get?).isNone with
  | none =>
      rw [found] at failed
      cases failed
  | some name =>
      rw [found] at failed
      cases failed
      obtain ⟨known, rfl⟩ := shaped.exists_name (List.mem_of_find?_eq_some found)
      refine ⟨known, List.mem_of_find?_eq_some found, ?_, rfl⟩
      have missing := List.find?_some found
      rw [Option.bind_some, Option.isNone_iff_eq_none] at missing
      exact (Entries.get?_eq_none_iff _ _).mp missing

/-- The models that are checked in an operation are those at its places. -/
theorem Operation.map_placedModels (operation : Operation) :
    operation.placedModels.map Prod.snd = operation.places.all := by
  simp [Operation.placedModels, Operation.places, Places.all, Places.inside,
    OperationInput.parameters, Function.comp_def, Parameter.entry]

namespace Draft

/-- All models of a draft: the named ones, and those of parameters and operations. -/
def allModels (draft : Draft) : List Model :=
  draft.models.map Prod.snd ++ draft.parameters.map (fun entry => entry.2.model) ++
    draft.operations.flatMap fun operation => operation.places.all

theorem forall_mem_allModels_iff {holds : Model → Prop} (draft : Draft) :
    (∀ model ∈ draft.allModels, holds model) ↔
      (∀ entry ∈ draft.models, holds entry.2) ∧
        (∀ entry ∈ draft.parameters, holds entry.2.model) ∧
          ∀ operation ∈ draft.operations, ∀ model ∈ operation.places.all, holds model := by
  simp only [allModels, List.forall_mem_append, List.forall_mem_map, List.forall_mem_flatMap,
    and_assoc]

theorem operation_checkReferences_eq_ok_iff (models : Entries String Model)
    {operation : Operation} (shaped : ∀ model ∈ operation.places.all, model.Shaped) :
    operation.checkReferences models = .ok () ↔
      ∀ model ∈ operation.places.all, model.Resolved models := by
  rw [← Operation.map_placedModels, List.forall_mem_map] at shaped ⊢
  unfold Operation.checkReferences
  rw [Outcome.mapError_eq_ok_iff, Outcome.forM_eq_ok_iff]
  apply forall₂_congr
  intro placed member
  exact checkReferences_eq_ok_iff models placed.1 (shaped placed member)

/-- The references of a draft are checked successfully exactly if every model is resolved. -/
theorem checkReferences_eq_ok_iff {draft : Draft}
    (shaped : ∀ model ∈ draft.allModels, model.Shaped) :
    draft.checkReferences = .ok () ↔ ∀ model ∈ draft.allModels, model.Resolved draft.models := by
  rw [forall_mem_allModels_iff] at shaped ⊢
  obtain ⟨shapedModels, shapedParameters, shapedOperations⟩ := shaped
  have models : ((List.forM draft.models fun (name, model) =>
      ApiScaffold.checkReferences draft.models name model) = .ok ()) ↔
      ∀ entry ∈ draft.models, entry.2.Resolved draft.models := by
    rw [Outcome.forM_eq_ok_iff]
    apply forall₂_congr
    intro entry member
    exact ApiScaffold.checkReferences_eq_ok_iff _ _ (shapedModels entry member)
  have parameters : ((List.forM draft.parameters fun (name, parameter) =>
      ApiScaffold.checkReferences draft.models ("parameters." ++ name) parameter.model) =
        .ok ()) ↔ ∀ entry ∈ draft.parameters, entry.2.model.Resolved draft.models := by
    rw [Outcome.forM_eq_ok_iff]
    apply forall₂_congr
    intro entry member
    exact ApiScaffold.checkReferences_eq_ok_iff _ _ (shapedParameters entry member)
  have operations : (draft.operations.forM (Operation.checkReferences draft.models) = .ok ()) ↔
      ∀ operation ∈ draft.operations, ∀ model ∈ operation.places.all,
        model.Resolved draft.models := by
    rw [Outcome.forM_eq_ok_iff]
    apply forall₂_congr
    intro operation member
    exact operation_checkReferences_eq_ok_iff _ (shapedOperations operation member)
  rw [← models, ← parameters, ← operations]
  constructor
  · intro checked
    obtain ⟨_, first, rest⟩ := Outcome.bind_eq_ok_iff.mp checked
    obtain ⟨_, second, third⟩ := Outcome.bind_eq_ok_iff.mp rest
    exact ⟨first, second, third⟩
  · rintro ⟨first, second, third⟩
    exact Outcome.bind_eq_ok_iff.mpr ⟨(), first, Outcome.bind_eq_ok_iff.mpr ⟨(), second, third⟩⟩

theorem exists_dangling_of_operation {models : Entries String Model} {operation : Operation}
    (shaped : ∀ model ∈ operation.places.all, model.Shaped) {failure : Failure}
    (failed : operation.checkReferences models = .error failure) :
    ∃ model ∈ operation.places.all, ∃ name, some name ∈ model.references ∧
      name ∉ models.keys ∧ failure.Dangling name := by
  rw [← Operation.map_placedModels, List.forall_mem_map] at shaped
  rw [← Operation.map_placedModels]
  obtain ⟨cause, stepFailed, rfl⟩ := Outcome.mapError_eq_error_iff.mp failed
  obtain ⟨placed, member, here⟩ := Outcome.exists_of_forM_eq_error stepFailed
  obtain ⟨name, refers, missing, rfl⟩ :=
    exists_dangling_of_checkReferences (shaped placed member) here
  exact ⟨placed.2, List.mem_map_of_mem member, name, refers, missing, rfl⟩

/-- The check of references fails for a name that some model refers to and none has. -/
theorem exists_dangling_of_draft {draft : Draft}
    (shaped : ∀ model ∈ draft.allModels, model.Shaped) {failure : Failure}
    (failed : draft.checkReferences = .error failure) :
    ∃ model ∈ draft.allModels, ∃ name, some name ∈ model.references ∧
      name ∉ draft.models.keys ∧ failure.Dangling name := by
  obtain ⟨inModels, inParameters, inOperations⟩ :=
    (forall_mem_allModels_iff draft).mp fun model member => member
  rw [forall_mem_allModels_iff] at shaped
  obtain ⟨shapedModels, shapedParameters, shapedOperations⟩ := shaped
  rcases Outcome.bind_eq_error_iff.mp failed with first | ⟨_, _, rest⟩
  · obtain ⟨entry, member, here⟩ := Outcome.exists_of_forM_eq_error first
    obtain ⟨name, refers, missing, rfl⟩ :=
      exists_dangling_of_checkReferences (shapedModels entry member) here
    exact ⟨entry.2, inModels entry member, name, refers, missing, rfl⟩
  · rcases Outcome.bind_eq_error_iff.mp rest with second | ⟨_, _, third⟩
    · obtain ⟨entry, member, here⟩ := Outcome.exists_of_forM_eq_error second
      obtain ⟨name, refers, missing, rfl⟩ :=
        exists_dangling_of_checkReferences (shapedParameters entry member) here
      exact ⟨entry.2.model, inParameters entry member, name, refers, missing, rfl⟩
    · obtain ⟨operation, member, here⟩ := Outcome.exists_of_forM_eq_error third
      obtain ⟨model, inOperation, name, refers, missing, dangling⟩ :=
        exists_dangling_of_operation (shapedOperations operation member) here
      exact ⟨model, inOperations operation member model inOperation, name, refers, missing,
        dangling⟩

end Draft

end ApiScaffold
