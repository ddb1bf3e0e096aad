import ApiScaffold.Proofs.Emission.Spelling
import ApiScaffold.Proofs.Service.Declared
import ApiScaffold.Proofs.Service.Failing
import ApiScaffold.Proofs.Service.ModelOrder

/-!
# Empty names in Python

Every name but the empty one has a legal name in Python.  A property of a struct and a header of
an output can be named so, and the identifier of an operation can leave nothing in snake case.
Then a module is refused, with a fault that belongs to no family.

Nothing else goes wrong undocumented: a step of the emission fails with a documented failure, or
it is refused for an empty name, or its result is too deep to be written out.
-/

namespace ApiScaffold

/-- The failure for a name that has no legal name. -/
def Failure.emptyName : Failure :=
  .fault (.invalidValue "Name cannot be empty")

namespace Outcome

/-- A step that is refused for an empty name, and otherwise fails with documented failures
only.  A documented failure may come before the refusal. -/
structure RefusedIf {α : Type} (nameless : Prop) (step : Outcome α) : Prop where
  failsOnly : step.FailsOnly fun failure =>
    failure.Documented ∨ failure = .emptyName ∧ nameless
  refused : nameless → ∀ value, step ≠ .ok value

namespace RefusedIf

variable {α β : Type} {nameless other : Prop}

/-- A step with documented failures only is not refused. -/
theorem of_documented {step : Outcome α} (fails : step.FailsOnly Failure.Documented) :
    RefusedIf False step :=
  ⟨fails.imp fun _ => Or.inl, False.elim⟩

theorem ok (value : α) : RefusedIf False (.ok value) :=
  of_documented (.ok value)

/-- After a documented failure it does not matter what would be refused. -/
theorem error {failure : Failure} (documented : failure.Documented) :
    RefusedIf (α := α) nameless (.error failure) := by
  constructor
  · exact .error (Or.inl documented)
  · intro _ value impossible
    cases impossible

theorem of_iff {step : Outcome α} (refusedIf : RefusedIf nameless step)
    (same : nameless ↔ other) : RefusedIf other step := by
  rwa [← same]

/-- Two steps are refused if either of them is. -/
theorem bind {first : Outcome α} {next : α → Outcome β} (refusedIf : RefusedIf nameless first)
    (continues : ∀ value, first = .ok value → RefusedIf other (next value)) :
    RefusedIf (nameless ∨ other) (first >>= next) := by
  constructor
  · refine FailsOnly.bind (refusedIf.failsOnly.imp ?_) ?_
    · exact fun _ => Or.imp_right fun failed => ⟨failed.1, Or.inl failed.2⟩
    · intro value succeeded
      refine (continues value succeeded).failsOnly.imp ?_
      exact fun _ => Or.imp_right fun failed => ⟨failed.1, Or.inr failed.2⟩
  · rintro either result succeeded
    obtain ⟨value, first, later⟩ := bind_eq_ok_iff.mp succeeded
    rcases either with here | there
    · exact refusedIf.refused here value first
    · exact (continues value first).refused there result later

/-- What is made of the value of a step is refused if the step is. -/
theorem map {first : Outcome α} (refusedIf : RefusedIf nameless first) (make : α → β) :
    RefusedIf nameless (first >>= fun value => .ok (make value)) :=
  (refusedIf.bind fun value _ => .ok (make value)).of_iff (or_iff_left not_false)

/-- A row of steps is refused if one of them is. -/
theorem mapM {step : α → Outcome β} {items : List α} {nameless : α → Prop}
    (each : ∀ item ∈ items, RefusedIf (nameless item) (step item)) :
    RefusedIf (∃ item ∈ items, nameless item) (items.mapM step) := by
  induction items with
  | nil => exact (RefusedIf.ok []).of_iff (by simp)
  | cons item rest ih =>
      rw [List.mapM_cons, List.exists_mem_cons_iff]
      apply (each item List.mem_cons_self).bind
      intro value _
      exact (ih fun other member => each other (List.mem_cons_of_mem item member)).map _

end RefusedIf

end Outcome

namespace PythonCode

open Outcome (FailsOnly RefusedIf)

variable {service : Service}

/-! ## Fields and classes -/

/-- Only the empty name has no legal name. -/
theorem refusedIf_legalName (name : String) : RefusedIf (name = "") (legalName name) := by
  unfold legalName
  cases named : Naming.fieldName? name with
  | none =>
      have isEmpty := (Naming.fieldName?_eq_none_iff name).mp named
      exact ⟨.error (Or.inr ⟨rfl, isEmpty⟩), fun _ _ impossible => nomatch impossible⟩
  | some legal =>
      apply (RefusedIf.ok legal).of_iff
      rw [← Naming.fieldName?_eq_none_iff, named]
      simp

theorem refusedIf_fieldCode {field : Field} (spells : service.Spells field.model) :
    RefusedIf (field.name = "") (fieldCode service field) := by
  obtain ⟨type, spelled, _⟩ := spells.python
  rw [fieldCode, spelled]
  exact (refusedIf_legalName field.name).map _

theorem refusedIf_fieldCodes {owner : String} {seen : List String} {fields : List Field}
    (spells : ∀ field ∈ fields, service.Spells field.model) :
    RefusedIf (∃ field ∈ fields, field.name = "") (fieldCodes service owner seen fields) := by
  induction fields generalizing seen with
  | nil => exact (RefusedIf.ok []).of_iff (by simp)
  | cons field rest ih =>
      rw [List.forall_mem_cons] at spells
      rw [fieldCodes, List.exists_mem_cons_iff]
      apply (refusedIf_fieldCode spells.1).bind
      intro code _
      split
      · exact .error rfl
      · exact (ih spells.2).map _

/-- A class is refused if a field has the empty name. -/
theorem refusedIf_classCode {name : String} {fields : List Field}
    {documentation : Option String} (spells : ∀ field ∈ fields, service.Spells field.model) :
    RefusedIf (∃ field ∈ fields, field.name = "")
      (classCode service name fields documentation) :=
  (refusedIf_fieldCodes spells).map _

theorem refusedIf_modelClass {name : String} {model : Model}
    (spells : ∀ property ∈ model.properties, service.Spells property.2) :
    RefusedIf (∃ property ∈ model.properties, property.1 = "")
      (modelClass service name model) := by
  have fields : ∀ field ∈ model.properties.map Field.ofProperty, service.Spells field.model :=
    List.forall_mem_map.mpr spells
  apply (refusedIf_classCode fields).of_iff
  simp [Field.ofProperty]

/-- The classes of the structs are refused if a property of one has the empty name. -/
theorem refusedIf_modelClasses {structs : List (String × Model)}
    (isStructs : service.structs = .ok structs)
    (spells : ∀ entry ∈ structs, ∀ property ∈ entry.2.properties, service.Spells property.2) :
    RefusedIf (∃ entry ∈ structs, ∃ property ∈ entry.2.properties, property.1 = "")
      (modelClasses service) := by
  rw [modelClasses, isStructs]
  exact RefusedIf.mapM fun entry member => refusedIf_modelClass (spells entry member)

/-- Whether there are fields, one of which has the empty name. -/
def Nameless (fields : Outcome (List Field)) : Prop :=
  ∃ given, fields = .ok given ∧ ∃ field ∈ given, field.name = ""

/-- A field of an operation has the empty name. -/
def HasNamelessField (service : Service) : Prop :=
  ∃ operation ∈ service.operations,
    Nameless (service.inputFields operation) ∨ Nameless (service.outputFields operation)

theorem refusedIf_fieldsClass {fields : Outcome (List Field)} {name : String}
    {documentation : Option String} (spells : service.SpellsFields fields) :
    RefusedIf (Nameless fields)
      (fields >>= fun given => classCode service name given documentation) := by
  rcases spells with ⟨given, rfl, each⟩ | ⟨repeated, owner, rfl⟩
  · apply (refusedIf_classCode each).of_iff
    simp [Nameless]
  · exact .error rfl

/-- The classes of the operations are refused if a field of one has the empty name. -/
theorem refusedIf_operationClasses
    (spells : ∀ operation ∈ service.operations,
      service.SpellsFields (service.inputFields operation) ∧
        service.SpellsFields (service.outputFields operation)) :
    RefusedIf (HasNamelessField service) (operationClasses service) := by
  refine RefusedIf.map (RefusedIf.mapM ?_) List.flatten
  intro operation member
  obtain ⟨input, output⟩ := spells operation member
  apply (refusedIf_fieldsClass input).bind
  intro inputCode _
  exact (refusedIf_fieldsClass output).map _

/-! ## Handlers and routes -/

theorem failsOnly_distinctArguments {owner : String} {seen : List String}
    {arguments : List (Outcome ArgumentCode)}
    (each : ∀ argument ∈ arguments, FailsOnly Failure.Documented argument) :
    FailsOnly Failure.Documented (distinctArguments owner seen arguments) := by
  induction arguments generalizing seen with
  | nil => exact .ok []
  | cons argument rest ih =>
      rw [List.forall_mem_cons] at each
      rw [distinctArguments]
      apply each.1.bind
      intro code _
      split
      · exact .error rfl
      · apply (ih each.2).bind
        intro codes _
        exact .ok _

/-- A parameter with a name is an argument. -/
theorem exists_parameterArgument {location : FieldLocation} {parameter : Parameter}
    (spells : service.Spells parameter.model) (named : parameter.name ≠ "") :
    ∃ argument, parameterArgument service location parameter = .ok argument := by
  obtain ⟨type, spelled, _⟩ := spells.python
  obtain ⟨legal, isLegal⟩ :=
    Option.ne_none_iff_exists'.mp (mt (Naming.fieldName?_eq_none_iff parameter.name).mp named)
  simp only [parameterArgument, legalName, isLegal, spelled]
  exact ⟨_, rfl⟩

/-- All parts of an input can be arguments. -/
theorem failsOnly_handlerArguments {owner : String} {input : OperationInput}
    (spells : ∀ parameter ∈ input.parameters, service.Spells parameter.model)
    (named : ∀ parameter ∈ input.parameters, parameter.name ≠ "")
    (body : ∀ model ∈ input.body, ∃ argument, bodyArgument service model = .ok argument) :
    FailsOnly Failure.Documented (handlerArguments service owner input) := by
  have ofParameters : ∀ location, ∀ parameter ∈ input.parameters,
      FailsOnly Failure.Documented (parameterArgument service location parameter) := by
    intro location parameter member
    exact .of_exists (exists_parameterArgument (spells parameter member) (named parameter member))
  simp only [OperationInput.parameters, List.forall_mem_append] at ofParameters
  apply failsOnly_distinctArguments
  simp only [List.forall_mem_append, List.forall_mem_map]
  refine ⟨⟨⟨?_, ?_⟩, ?_⟩, ?_⟩
  · exact (ofParameters .path).1.1
  · exact (ofParameters .query).1.2
  · exact (ofParameters .header).2
  · intro model isBody
    exact .of_exists (body model (Option.mem_toList.mp isBody))

/-- An operation whose parameters have names and whose parts all have types. -/
structure Handled (service : Service) (operation : Operation) : Prop where
  spells : ∀ parameter ∈ operation.input.parameters, service.Spells parameter.model
  named : ∀ parameter ∈ operation.input.parameters, parameter.name ≠ ""
  body : ∀ model ∈ operation.input.body, ∃ argument, bodyArgument service model = .ok argument

theorem refusedIf_handlerName (operation : Operation) :
    RefusedIf (Naming.snakeCase operation.id = "") (handlerName operation) :=
  refusedIf_legalName _

/-- A handler is refused if nothing is left of the identifier of its operation. -/
theorem refusedIf_handlerCode {operation : Operation} (handled : Handled service operation) :
    RefusedIf (Naming.snakeCase operation.id = "") (handlerCode service operation) := by
  refine ((refusedIf_handlerName operation).bind fun name _ => ?_).of_iff (or_iff_left not_false)
  exact (RefusedIf.of_documented
    (failsOnly_handlerArguments handled.spells handled.named handled.body)).map _

theorem refusedIf_handlerCodes {seen : List String} {operations : List Operation}
    (handled : ∀ operation ∈ operations, Handled service operation) :
    RefusedIf (∃ operation ∈ operations, Naming.snakeCase operation.id = "")
      (handlerCodes service seen operations) := by
  induction operations generalizing seen with
  | nil => exact (RefusedIf.ok []).of_iff (by simp)
  | cons operation rest ih =>
      rw [List.forall_mem_cons] at handled
      rw [handlerCodes, List.exists_mem_cons_iff]
      apply (refusedIf_handlerCode handled.1).bind
      intro handler _
      dsimp only
      split
      · exact .error rfl
      · exact (ih handled.2).map _

/-- Nothing is left of the identifier of an operation in snake case. -/
def HasNamelessHandler (service : Service) : Prop :=
  ∃ operation ∈ service.operations, Naming.snakeCase operation.id = ""

theorem refusedIf_routeStatements (handlers : List HandlerCode) :
    RefusedIf (HasNamelessHandler service) (routeStatements service handlers) := by
  have lines : RefusedIf (HasNamelessHandler service) (service.operations.mapM routeLine) :=
    RefusedIf.mapM fun operation _ => (refusedIf_handlerName operation).map _
  exact (lines.map _).map _

/-! ## Modules -/

/-- A property of a struct has the empty name. -/
def HasNamelessProperty (service : Service) : Prop :=
  ∃ entry ∈ service.models, entry.2.isStruct = true ∧
    ∃ property ∈ entry.2.properties, property.1 = ""

/-- Whether an empty name is used by what is wanted in a module. -/
def UsesEmptyName (service : Service) (options : EmissionOptions) : Prop :=
  (options.models = true ∧ HasNamelessProperty service) ∨ HasNamelessField service ∨
    (options.routes = true ∧ HasNamelessHandler service)

section Built

variable {document : Document} (built : document.service = .ok service)
include built

theorem refusedIf_wantedModelClasses (options : EmissionOptions) :
    RefusedIf (options.models = true ∧ HasNamelessProperty service)
      (wantedModelClasses service options) := by
  unfold wantedModelClasses
  by_cases wanted : options.models = true
  · obtain ⟨structs, isStructs, perm⟩ := Document.exists_structs_perm built
    have spells : ∀ entry ∈ structs, ∀ property ∈ entry.2.properties,
        service.Spells property.2 := by
      intro entry member
      have inModels := (List.mem_filter.mp (perm.mem_iff.mp member)).1
      exact ((Document.service_spells built).1 entry inModels).2.2
    rw [if_pos wanted]
    apply (refusedIf_modelClasses isStructs spells).of_iff
    simp only [HasNamelessProperty, perm.mem_iff, List.mem_filter, wanted, true_and, and_assoc]
  · rw [if_neg wanted]
    exact (RefusedIf.ok []).of_iff (by simp [wanted])

/-- In a built service every operation can have a handler. -/
theorem handled_of_service : ∀ operation ∈ service.operations, Handled service operation := by
  intro operation member
  obtain ⟨spells, body, _⟩ := (Document.service_spells built).2.2 operation member
  exact
    { spells := fun parameter isInput => spells parameter (List.mem_append_left _ isInput)
      named := (Document.declared_of_service built operation member).named
      body := fun model isBody => (body model isBody).2 }

theorem refusedIf_allClasses (options : EmissionOptions) :
    RefusedIf ((options.models = true ∧ HasNamelessProperty service) ∨ HasNamelessField service)
      (allClasses service options) := by
  apply (refusedIf_wantedModelClasses built options).bind
  intro models _
  refine (refusedIf_operationClasses ?_).map _
  intro operation member
  exact ((Document.service_spells built).2.2 operation member).2.2

/-- A module of a built service is refused exactly if it uses an empty name, unless a documented
failure comes first. -/
theorem refusedIf_soleCode (options : EmissionOptions) :
    RefusedIf (UsesEmptyName service options) (soleCode service options) := by
  refine RefusedIf.of_iff (RefusedIf.bind (refusedIf_allClasses built options) ?_) or_assoc
  intro classes _
  by_cases wanted : options.routes = true
  · simp only [wanted, if_true, true_and]
    refine RefusedIf.of_iff (RefusedIf.bind
      (refusedIf_handlerCodes (handled_of_service built)) ?_) or_self_iff
    intro handlers _
    exact (refusedIf_routeStatements handlers).map _
  · simp only [wanted, Bool.false_eq_true, if_false, false_and]
    exact .ok _

end Built

/-- A module that is put together has a text, unless it is not well formed. -/
theorem ModuleCode.failsOnly_text (code : ModuleCode) (checked : Bool) (name : String) :
    FailsOnly Failure.Documented (code.render checked name) := by
  unfold render
  split
  · exact .error rfl
  · exact .ok _

/-- Without an empty name, a module of a built service fails with documented failures only.  With
an empty name it always fails. -/
theorem renderModule_of_service {document : Document} (built : document.service = .ok service)
    (options : EmissionOptions) :
    FailsOnly (fun failure => failure.Documented ∨
        failure = .emptyName ∧ UsesEmptyName service options) (renderModule service options) ∧
      (UsesEmptyName service options → ∃ failure, renderModule service options = .error failure ∧
        (failure.Documented ∨ failure = .emptyName)) := by
  have refusedIf := refusedIf_soleCode built options
  constructor
  · refine FailsOnly.bind refusedIf.failsOnly ?_
    intro code _
    exact (code.failsOnly_text _ _).imp fun _ => Or.inl
  · intro uses
    cases outcome : soleCode service options with
    | ok code => exact absurd outcome (refusedIf.refused uses code)
    | error failure =>
        refine ⟨failure, by rw [renderModule, outcome]; rfl, ?_⟩
        exact (refusedIf.failsOnly failure outcome).imp_right And.left

end PythonCode

end ApiScaffold
