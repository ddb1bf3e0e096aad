import ApiScaffold.Proofs.Emission.DistinctNames
import ApiScaffold.Proofs.Emission.Modules

/-!
# Failures before the check

Code is put together before it is checked.  Whatever goes wrong until then, no failure says that
the code is not well formed: this is the verdict of the check alone.
-/

namespace ApiScaffold

/-- Whether a failure says that the generated code is not well formed. -/
def Failure.isInvalidCode : Failure → Bool
  | .generation .invalidCode _ _ => true
  | _ => false

/-- A failure of a step that comes before the check. -/
def Failure.BeforeCheck (failure : Failure) : Prop :=
  failure.isInvalidCode = false

open Outcome (FailsOnly)
open Failure (BeforeCheck)

variable {service : Service}

/-! ## Fields of inputs and outputs -/

namespace Service

theorem beforeCheck_model (name : Option String) :
    FailsOnly BeforeCheck (service.model name) := by
  unfold model
  split
  · exact .ok _
  · exact .error rfl

theorem beforeCheck_dereference (model : Model) :
    FailsOnly BeforeCheck (service.dereference model) := by
  unfold dereference
  split
  · exact beforeCheck_model _
  · exact .ok _

theorem beforeCheck_structsAmong (models : Entries String Model) (names : List String) :
    FailsOnly BeforeCheck (structsAmong models names) := by
  induction names with
  | nil => exact .ok []
  | cons name rest ih =>
      rw [structsAmong]
      split
      · exact .error rfl
      · exact ih.bind fun _ _ => .ok _

end Service

theorem beforeCheck_bodyFields (body : Option Model) :
    FailsOnly BeforeCheck (bodyFields service body) := by
  cases body with
  | none => exact .ok []
  | some model =>
      apply (Service.beforeCheck_dereference model).bind
      intro target _
      split
      · exact .ok _
      · split
        · exact .ok _
        · exact .ok _

theorem beforeCheck_checkDistinct {owner : String} {seen : List String} {fields : List Field} :
    FailsOnly BeforeCheck (checkDistinct owner seen fields) := by
  induction fields generalizing seen with
  | nil => exact .ok ()
  | cons field rest ih =>
      rw [checkDistinct]
      split
      · exact .error rfl
      · exact ih

theorem Service.beforeCheck_inputFields (operation : Operation) :
    FailsOnly BeforeCheck (service.inputFields operation) :=
  (beforeCheck_bodyFields _).bind fun _ _ => beforeCheck_checkDistinct.bind fun _ _ => .ok _

theorem Service.beforeCheck_outputFields (operation : Operation) :
    FailsOnly BeforeCheck (service.outputFields operation) :=
  (beforeCheck_bodyFields _).bind fun _ _ => beforeCheck_checkDistinct.bind fun _ _ => .ok _

namespace PythonCode

/-! ## Annotations -/

section TypeCodeWith

variable {expand : Option String → Outcome TypeCode}

mutual

theorem beforeCheck_typeCodeWith (expands : ∀ name, FailsOnly BeforeCheck (expand name))
    (model : Model) : FailsOnly BeforeCheck (typeCodeWith expand model) := by
  obtain ⟨kind, element, properties, name, description⟩ := model
  have ofElement := beforeCheck_elementTypeCode expands element
  cases primitive : primitiveTypeCode? kind with
  | some known =>
      simp only [typeCodeWith, primitive]
      exact .ok _
  | none =>
      cases kind with
      | array =>
          simp only [typeCodeWith, primitiveTypeCode?]
          exact ofElement.bind fun _ _ => by split <;> exact .ok _
      | map | iterator =>
          simp only [typeCodeWith, primitiveTypeCode?]
          exact ofElement.bind fun _ _ => .ok _
      | reference =>
          simp only [typeCodeWith, primitiveTypeCode?]
          exact expands name
      | struct | enum => exact .error rfl
      | _ => cases primitive
termination_by structural model

theorem beforeCheck_elementTypeCode (expands : ∀ name, FailsOnly BeforeCheck (expand name))
    (element : Option Model) : FailsOnly BeforeCheck (elementTypeCode expand element) := by
  match element with
  | none => exact .error rfl
  | some element => exact (beforeCheck_typeCodeWith expands element).bind fun _ _ => .ok _
termination_by structural element

end

end TypeCodeWith

theorem beforeCheck_referenceTypeCode (steps : Nat) (name : Option String) :
    FailsOnly BeforeCheck (referenceTypeCode service steps name) := by
  induction steps generalizing name with
  | zero => exact .error rfl
  | succ steps ih =>
      apply (Service.beforeCheck_model name).bind
      intro target _
      split
      · exact .ok _
      · exact beforeCheck_typeCodeWith ih target

theorem beforeCheck_typeCode (model : Model) : FailsOnly BeforeCheck (typeCode service model) :=
  beforeCheck_typeCodeWith (beforeCheck_referenceTypeCode _) model

/-! ## Classes -/

theorem beforeCheck_legalName (name : String) : FailsOnly BeforeCheck (legalName name) := by
  unfold legalName
  split
  · exact .ok _
  · exact .error rfl

theorem beforeCheck_fieldCode (field : Field) :
    FailsOnly BeforeCheck (fieldCode service field) :=
  (beforeCheck_typeCode field.model).bind fun _ _ =>
    (beforeCheck_legalName field.name).bind fun _ _ => .ok _

theorem beforeCheck_classCode (name : String) (fields : List Field)
    (documentation : Option String) :
    FailsOnly BeforeCheck (classCode service name fields documentation) := by
  have codes : FailsOnly BeforeCheck (fieldCodes service name [] fields) := by
    rw [fieldCodes_eq_distinctly]
    exact Outcome.failsOnly_distinctly (fun _ => rfl) fun field _ => beforeCheck_fieldCode field
  exact codes.bind fun _ _ => .ok _

theorem beforeCheck_modelClasses : FailsOnly BeforeCheck (modelClasses service) :=
  (Service.beforeCheck_structsAmong _ _).bind fun _ _ =>
    .mapM fun _ _ => beforeCheck_classCode _ _ _

theorem beforeCheck_inputClass (operation : Operation) :
    FailsOnly BeforeCheck (inputClass service operation) :=
  (Service.beforeCheck_inputFields operation).bind fun _ _ => beforeCheck_classCode _ _ _

theorem beforeCheck_outputClass (operation : Operation) :
    FailsOnly BeforeCheck (outputClass service operation) :=
  (Service.beforeCheck_outputFields operation).bind fun _ _ => beforeCheck_classCode _ _ _

theorem beforeCheck_operationClasses : FailsOnly BeforeCheck (operationClasses service) := by
  refine FailsOnly.bind (.mapM fun operation _ => ?_) fun _ _ => .ok _
  exact (beforeCheck_inputClass operation).bind fun _ _ =>
    (beforeCheck_outputClass operation).bind fun _ _ => .ok _

theorem beforeCheck_allClasses (options : EmissionOptions) :
    FailsOnly BeforeCheck (allClasses service options) := by
  have models : FailsOnly BeforeCheck (wantedModelClasses service options) := by
    unfold wantedModelClasses
    split
    · exact beforeCheck_modelClasses
    · exact .ok []
  exact models.bind fun _ _ => beforeCheck_operationClasses.bind fun _ _ => .ok _

/-! ## Handlers -/

theorem beforeCheck_partArgument (part : InputPart) :
    FailsOnly BeforeCheck (partArgument service part) := by
  cases part with
  | parameter location given =>
      exact (beforeCheck_legalName given.name).bind fun _ _ =>
        (beforeCheck_typeCode given.model).bind fun _ _ => .ok _
  | body model =>
      apply (Service.beforeCheck_dereference model).bind
      intro target _
      split
      · exact .ok _
      · exact (beforeCheck_typeCode model).bind fun _ _ => .ok _

theorem beforeCheck_handlers : FailsOnly BeforeCheck (handlers service) := by
  rw [handlers, handlerCodes_eq_distinctly]
  refine Outcome.failsOnly_distinctly (fun _ => rfl) fun operation _ => ?_
  apply (beforeCheck_legalName _).bind
  intro name _
  refine FailsOnly.bind ?_ fun _ _ => .ok _
  rw [handlerArguments_eq_distinctly]
  exact Outcome.failsOnly_distinctly (fun _ => rfl) fun part _ => beforeCheck_partArgument part

theorem beforeCheck_routeStatements (codes : List HandlerCode) :
    FailsOnly BeforeCheck (routeStatements service codes) := by
  refine FailsOnly.bind (FailsOnly.bind (.mapM fun operation _ => ?_) fun _ _ => .ok _)
    fun _ _ => .ok _
  exact (beforeCheck_legalName _).bind fun _ _ => .ok _

/-! ## Modules -/

/-- No module is found to be not well formed while it is put together. -/
theorem Module.beforeCheck_code (options : EmissionOptions) (module : Module) :
    FailsOnly BeforeCheck (module.code service options) := by
  cases module with
  | sole =>
      apply (beforeCheck_allClasses options).bind
      intro classes _
      split
      · refine FailsOnly.bind beforeCheck_handlers fun codes _ => ?_
        exact FailsOnly.bind (beforeCheck_routeStatements codes) fun _ _ => .ok _
      · exact .ok _
  | models => exact beforeCheck_modelClasses.bind fun _ _ => .ok _
  | routes =>
      exact beforeCheck_handlers.bind fun codes _ =>
        (beforeCheck_routeStatements codes).bind fun _ _ => .ok _
  | package => exact (beforeCheck_allClasses options).bind fun _ _ => .ok _
  | input operation => exact (beforeCheck_inputClass operation).bind fun _ _ => .ok _
  | output operation => exact (beforeCheck_outputClass operation).bind fun _ _ => .ok _

end PythonCode

end ApiScaffold
