import ApiScaffold.Proofs.Model.Mapping
import ApiScaffold.Proofs.Service.Draft

/-!
# Why services are not built

What is wrong with a document until its draft is built is a matter of its structure: a field or
a definition is missing, a parameter is at no known place, or pointers lead back to themselves.
If it is wrong with an operation, the failure says with which.  Names do not matter before the
draft is checked.

So the building of a service fails with documented failures only, and for a repeated name only
in the check of names.
-/

namespace ApiScaffold

/-! ## Kinds of failures -/

/-- A failure that belongs to a family. -/
def Failure.Documented (failure : Failure) : Prop :=
  failure.isDocumented = true

/-- What is wrong with the structure of a document. -/
inductive Failure.Structural : Failure → Prop
  | missingComponents (reference : String) : Structural (.missingComponents reference)
  | missingField (field : String) (context : Option String) :
      Structural (.missingField field context)
  | unresolvedReference (reference context : Option String) :
      Structural (.unresolvedReference reference context)
  | invalidLocation (location parameter : Option String) :
      Structural (.invalidLocation location parameter)
  | cycle (path : List (Option String)) : Structural (.cycle path)

/-- What is wrong with the structure of a document, or of one of its operations. -/
inductive Failure.Drafting : Failure → Prop
  | structural {failure : Failure} (cause : failure.Structural) : Drafting failure
  | operation (id method uri : String) {failure : Failure} (cause : failure.Structural) :
      Drafting (.operation id (some method) (some uri) (some failure))

namespace Failure

theorem Structural.documented {failure : Failure} (structural : failure.Structural) :
    failure.Documented := by
  cases structural <;> rfl

theorem Drafting.documented {failure : Failure} (drafting : failure.Drafting) :
    failure.Documented := by
  cases drafting with
  | structural cause => exact cause.documented
  | operation => rfl

theorem not_drafting_duplicateName (name owner : String) :
    ¬ (duplicateName name owner).Drafting := by
  intro drafting
  cases drafting with
  | structural cause => cases cause

end Failure

/-! ## Schemas and pointers -/

namespace SchemaObject

theorem failsOnly_ofEntries {allowed : Failure → Prop} {entries : List (String × SchemaObject)}
    (each : ∀ entry ∈ entries, ∀ path, Outcome.FailsOnly allowed (Model.ofSchema entry.2 path))
    (path : String) : Outcome.FailsOnly allowed (Model.ofEntries entries path) := by
  induction entries with
  | nil => exact .ok []
  | cons entry rest ih =>
      obtain ⟨name, schema⟩ := entry
      rw [Model.ofEntries]
      apply (each (name, schema) List.mem_cons_self _).bind
      intro property _
      apply (ih fun other member => each other (List.mem_cons_of_mem _ member)).bind
      intro others _
      exact .ok _

theorem failsOnly_ofItems {allowed : Failure → Prop} {items : Option SchemaObject}
    (each : ∀ item, items = some item →
      ∀ path, Outcome.FailsOnly allowed (Model.ofSchema item path))
    (path : String) : Outcome.FailsOnly allowed (Model.ofItems items path) := by
  cases items with
  | none => exact .ok none
  | some item =>
      rw [Model.ofItems]
      apply (each item rfl _).bind
      intro element _
      exact .ok (some element)

theorem failsOnly_ofAdditional {allowed : Failure → Prop}
    {additional : Option (AdditionalProperties SchemaObject)}
    (each : ∀ value, additional = some (.schema value) →
      ∀ path, Outcome.FailsOnly allowed (Model.ofSchema value path))
    (path : String) : Outcome.FailsOnly allowed (Model.ofAdditional additional path) := by
  match additional with
  | none => exact .ok none
  | some (.allowed false) => exact .ok none
  | some (.allowed true) => exact .ok _
  | some (.schema value) =>
      rw [Model.ofAdditional]
      apply (each value rfl _).bind
      intro element _
      exact .ok (some element)

/-- A schema without a model lacks the items of an array. -/
theorem failsOnly_ofSchema (schema : SchemaObject) (path : String) :
    Outcome.FailsOnly Failure.Structural (Model.ofSchema schema path) := by
  induction schema using induct generalizing path with
  | step schema items properties additional =>
      rw [ofSchema_eq]
      split
      · exact .ok _
      · exact .ok _
      · apply (failsOnly_ofItems items path).bind
        intro element _
        cases element with
        | none => exact .error (.missingField _ _)
        | some element => exact .ok _
      · split
        · apply Outcome.FailsOnly.bind
          · cases declared : schema.properties with
            | none => exact .ok []
            | some entries => exact failsOnly_ofEntries (properties entries declared) path
          · intro models _
            exact .ok _
        · apply (failsOnly_ofAdditional additional path).bind
          intro element _
          cases element with
          | none => exact .ok _
          | some element => exact .ok _
      · exact .ok _

end SchemaObject

namespace Document

variable {α : Type} [Referable α]

theorem failsOnly_lookup (document : Document) (pointer : String) (context : Option String) :
    Outcome.FailsOnly Failure.Structural (document.lookup (α := α) pointer context) := by
  unfold lookup lookupIn
  split
  · exact .error (.missingComponents pointer)
  · split
    · exact .ok _
    · exact .error (.unresolvedReference _ _)

theorem failsOnly_followPointers (document : Document) (context : Option String) (steps : Nat)
    (seen : List String) (item : α) :
    Outcome.FailsOnly Failure.Structural (document.followPointers context steps seen item) := by
  induction steps generalizing seen item with
  | zero =>
      rw [followPointers]
      split
      · exact .ok item
      · split
        · exact .error (.cycle _)
        · exact .error (.cycle _)
  | succ steps ih =>
      rw [followPointers]
      split
      · exact .ok item
      · next pointer _ =>
          split
          · exact .error (.cycle _)
          · have looked := failsOnly_lookup (α := α) document pointer context
            cases found : document.lookup (α := α) pointer context with
            | error failure => exact .error (looked failure found)
            | ok definition => exact ih _ definition

/-- Pointers that lead to no definition lead nowhere or back. -/
theorem failsOnly_resolve (document : Document) (item : α) (context : Option String) :
    Outcome.FailsOnly Failure.Structural (document.resolve item context) :=
  failsOnly_followPointers document context _ [] item

end Document

/-! ## Operations -/

theorem Parameter.failsOnly_ofObject (object : ParameterObject) (context : String) :
    Outcome.FailsOnly Failure.Structural (ofObject object context) := by
  unfold ofObject
  split
  · exact .error (.missingField _ _)
  · exact .error (.missingField _ _)
  · next name schema _ _ =>
      apply (SchemaObject.failsOnly_ofSchema schema _).bind
      intro model _
      exact .ok _

namespace Definitions

variable (definitions : Definitions)

/-- A parameter is at a known place, or its location is invalid. -/
theorem failsOnly_located (definition : ParameterObject) (parameter : Parameter) :
    Outcome.FailsOnly Failure.Structural
      (match definition.location.bind ParameterLocation.ofName? with
      | some location => pure (location, parameter)
      | none => throw (.invalidLocation definition.location definition.name) :
      Outcome (ParameterLocation × Parameter)) := by
  split
  · exact .ok _
  · exact .error (.invalidLocation _ _)

theorem failsOnly_parameterFor (operationId : String) (object : ParameterObject) :
    Outcome.FailsOnly Failure.Structural (definitions.parameterFor operationId object) := by
  rw [parameterFor]
  split
  · apply (Parameter.failsOnly_ofObject object operationId).bind
    intro parameter _
    exact failsOnly_located object parameter
  · apply (definitions.document.failsOnly_resolve object _).bind
    intro definition _
    split
    · next parameter _ => exact failsOnly_located definition parameter
    · exact .error (.unresolvedReference _ _)

theorem failsOnly_mergedParameters (operationId : String) (objects : List ParameterObject) :
    Outcome.FailsOnly Failure.Structural (definitions.mergedParameters operationId objects) := by
  apply (Outcome.FailsOnly.mapM fun object _ =>
    definitions.failsOnly_parameterFor operationId object).bind
  intro resolved _
  exact .ok _

theorem failsOnly_requestBody (operationId : String) (object : OperationObject) :
    Outcome.FailsOnly Failure.Structural (definitions.requestBody operationId object) := by
  unfold requestBody
  split
  · exact .ok none
  · next body _ =>
      apply (definitions.document.failsOnly_resolve body _).bind
      intro definition _
      split
      · exact .ok none
      · next schema _ =>
          apply (schema.failsOnly_ofSchema _).bind
          intro model _
          exact .ok (some model)

theorem failsOnly_flatten (keepStructs : Bool) (context : String) (model : Model) :
    Outcome.FailsOnly Failure.Structural (definitions.flatten keepStructs context model) := by
  unfold flatten
  split
  · split
    · exact .error (.unresolvedReference _ _)
    · exact .ok _
  · exact .ok model

theorem failsOnly_responseHeader (context name : String) (object : HeaderObject) :
    Outcome.FailsOnly Failure.Structural (definitions.responseHeader context name object) := by
  apply (definitions.document.failsOnly_resolve object _).bind
  intro header _
  split
  · exact .error (.missingField _ _)
  · next schema _ =>
      apply (schema.failsOnly_ofSchema _).bind
      intro model _
      apply (definitions.failsOnly_flatten true context model).bind
      intro flattened _
      exact .ok _

theorem failsOnly_responseBody (context : String) (response : ResponseObject) :
    Outcome.FailsOnly Failure.Structural (definitions.responseBody context response) := by
  unfold responseBody
  split
  · exact .ok none
  · next schema _ =>
      apply (schema.failsOnly_ofSchema _).bind
      intro model _
      apply (definitions.failsOnly_flatten false context model).bind
      intro flattened _
      exact .ok (some flattened)

theorem failsOnly_outputOf (context : String) (statusCode : Int) (response : ResponseObject) :
    Outcome.FailsOnly Failure.Structural (definitions.outputOf context statusCode response) := by
  apply (Outcome.FailsOnly.mapM fun (entry : String × HeaderObject) _ =>
    definitions.failsOnly_responseHeader context entry.1 entry.2).bind
  intro headers _
  apply (definitions.failsOnly_responseBody context response).bind
  intro body _
  exact .ok _

theorem failsOnly_selectOutput (operationId : String) (found : Option OperationOutput)
    (declared : List (Int × ResponseObject)) :
    Outcome.FailsOnly Failure.Structural
      (definitions.selectOutput operationId found declared) := by
  induction declared generalizing found with
  | nil => exact .ok _
  | cons entry rest ih =>
      obtain ⟨statusCode, object⟩ := entry
      rw [selectOutput]
      apply (definitions.document.failsOnly_resolve object _).bind
      intro response _
      split
      · cases found with
        | none =>
            apply (definitions.failsOnly_outputOf _ statusCode response).bind
            intro output _
            exact ih (some output)
        | some output =>
            apply (ih (some output)).bind
            intro selected _
            exact .ok _
      · exact ih found

theorem failsOnly_responses (operationId : String) (declared : Entries String ResponseObject) :
    Outcome.FailsOnly Failure.Structural (definitions.responses operationId declared) := by
  apply (definitions.failsOnly_selectOutput operationId none _).bind
  intro selected _
  exact .ok _

theorem failsOnly_assemble (operationId uri : String) (method : Method)
    (shared : List ParameterObject) (object : OperationObject) :
    Outcome.FailsOnly Failure.Structural
      (definitions.assemble operationId uri method shared object) := by
  apply (definitions.failsOnly_mergedParameters operationId _).bind
  intro merged _
  apply (definitions.failsOnly_requestBody operationId object).bind
  intro body _
  apply (definitions.failsOnly_responses operationId _).bind
  intro responses _
  exact .ok _

/-- An operation that is not built is named with the structural cause. -/
theorem failsOnly_operationAt (uri : String) (method : Method) (shared : List ParameterObject)
    (object : OperationObject) :
    Outcome.FailsOnly Failure.Drafting (definitions.operationAt uri method shared object) := by
  rw [operationAt]
  refine Outcome.FailsOnly.mapError (definitions.failsOnly_assemble _ uri method shared object) ?_
  intro failure structural
  have documented : failure.isDocumented = true := structural.documented
  rw [if_pos documented]
  exact .operation _ _ _ structural

theorem failsOnly_operations : Outcome.FailsOnly Failure.Drafting definitions.operations := by
  apply (Outcome.FailsOnly.mapM fun (declared : DeclaredOperation) _ =>
    definitions.failsOnly_operationAt declared.uri declared.method declared.shared
      declared.object).bind
  intro built _
  exact .ok _

end Definitions

/-! ## Drafts -/

namespace Document

variable (document : Document)

theorem failsOnly_declaredModels :
    Outcome.FailsOnly Failure.Structural document.declaredModels := by
  apply Outcome.FailsOnly.mapM
  rintro ⟨name, schema⟩ _
  apply (schema.failsOnly_ofSchema name).bind
  intro model _
  exact .ok _

theorem failsOnly_declaredParameters :
    Outcome.FailsOnly Failure.Structural document.declaredParameters := by
  apply Outcome.FailsOnly.mapM
  rintro ⟨name, object⟩ _
  apply (document.failsOnly_resolve object _).bind
  intro definition _
  apply (Parameter.failsOnly_ofObject definition _).bind
  intro parameter _
  exact .ok _

/-- Without a draft, something is wrong with the structure of the document. -/
theorem failsOnly_draft : Outcome.FailsOnly Failure.Drafting document.draft := by
  rw [draft]
  refine Outcome.FailsOnly.bind (document.failsOnly_declaredModels.imp fun _ => .structural) ?_
  intro declared _
  refine Outcome.FailsOnly.bind
    (document.failsOnly_declaredParameters.imp fun _ => .structural) ?_
  intro parameters _
  apply (Definitions.failsOnly_operations _).bind
  intro built _
  exact .ok _

end Document

/-! ## Checks -/

/-- A failure that says of a name that it is repeated. -/
inductive Failure.Repeated : Failure → Prop
  | intro (name owner : String) : Repeated (.duplicateName name owner)

theorem Failure.Repeated.documented {failure : Failure} (repeated : failure.Repeated) :
    failure.Documented := by
  cases repeated
  rfl

theorem failsOnly_checkModelNames (typeNames : List String) :
    Outcome.FailsOnly Failure.Repeated (checkModelNames typeNames) := by
  unfold checkModelNames
  split
  · exact .error (.intro _ _)
  · exact .ok ()

theorem failsOnly_checkOperationNames (typeNames seen : List String)
    (operations : List Operation) :
    Outcome.FailsOnly Failure.Repeated (checkOperationNames typeNames seen operations) := by
  induction operations generalizing seen with
  | nil => exact .ok ()
  | cons operation rest ih =>
      rw [checkOperationNames]
      split
      · exact .error (.intro _ _)
      · split
        · exact .error (.intro _ _)
        · split
          · exact .error (.intro _ _)
          · exact ih (operation.id :: seen)

theorem failsOnly_checkReferences (models : Entries String Model) (context : String)
    (model : Model) :
    Outcome.FailsOnly Failure.Structural (checkReferences models context model) := by
  unfold checkReferences
  split
  · exact .error (.unresolvedReference _ _)
  · exact .ok ()

theorem failsOnly_orderModels (models : Entries String Model) :
    Outcome.FailsOnly Failure.Structural (orderModels models) := by
  unfold orderModels
  cases (expansionGraph models).sort .reject with
  | error path => exact .error (.cycle _)
  | ok listed =>
      cases (referenceGraph models).sort .skip with
      | error path => exact .error (.cycle _)
      | ok order => exact .ok order

namespace Draft

variable (draft : Draft)

/-- The check of names fails for nothing but a name. -/
theorem failsOnly_checkNames : Outcome.FailsOnly Failure.Repeated draft.checkNames := by
  apply (failsOnly_checkModelNames _).bind
  intro _ _
  exact failsOnly_checkOperationNames _ [] _

theorem failsOnly_checkReferences : Outcome.FailsOnly Failure.Drafting draft.checkReferences := by
  rw [checkReferences]
  refine Outcome.FailsOnly.bind (.forM ?_) ?_
  · rintro ⟨name, model⟩ _
    exact (ApiScaffold.failsOnly_checkReferences _ name model).imp fun _ => .structural
  · intro _ _
    refine Outcome.FailsOnly.bind (.forM ?_) ?_
    · rintro ⟨name, parameter⟩ _
      exact (ApiScaffold.failsOnly_checkReferences _ _ parameter.model).imp fun _ => .structural
    · intro _ _
      apply Outcome.FailsOnly.forM
      intro operation _
      refine Outcome.FailsOnly.mapError (.forM ?_) fun _ => .operation _ _ _
      rintro ⟨context, model⟩ _
      exact ApiScaffold.failsOnly_checkReferences _ context model

end Draft

namespace Document

variable {document : Document}

/-- A service is not built because something is wrong with the structure of the document, or
because its draft fails the check of names. -/
theorem drafting_or_checkNames_of_service {failure : Failure}
    (failed : document.service = .error failure) :
    failure.Drafting ∨ ∃ draft, document.draft = .ok draft ∧ draft.checkNames = .error failure := by
  rw [service_eq] at failed
  rcases Outcome.bind_eq_error_iff.mp failed with noDraft | ⟨draft, drafted, later⟩
  · exact Or.inl (document.failsOnly_draft failure noDraft)
  · rcases Outcome.bind_eq_error_iff.mp later with names | ⟨_, _, later⟩
    · exact Or.inr ⟨draft, drafted, names⟩
    · left
      refine Outcome.FailsOnly.bind draft.failsOnly_checkReferences ?_ failure later
      intro _ _
      refine Outcome.FailsOnly.bind
        ((failsOnly_orderModels draft.models).imp fun _ => .structural) ?_
      intro order _
      exact .ok _

/-- Whatever a document says, the building of its service fails with documented failures
only. -/
theorem failsOnly_service (document : Document) :
    Outcome.FailsOnly Failure.Documented document.service := by
  intro failure failed
  rcases drafting_or_checkNames_of_service failed with drafting | ⟨draft, _, names⟩
  · exact drafting.documented
  · exact (draft.failsOnly_checkNames failure names).documented

end Document

end ApiScaffold
