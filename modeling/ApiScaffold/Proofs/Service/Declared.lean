import ApiScaffold.Proofs.Service.Draft

/-!
# What operations keep of their declarations

The method of a built operation is one of the methods that exist, and every parameter of its
input has a name.  Hoisting changes nothing about either.

The headers of an output are named by the document alone, so nothing of the kind holds of them.
-/

namespace ApiScaffold

/-- Every method is found under its name. -/
theorem Method.ofName?_name (method : Method) : ofName? method.name = some method := by
  cases method <;> rfl

/-- An operation with a method that exists, and with names for its parameters. -/
structure Operation.Declared (operation : Operation) : Prop where
  method : ∃ method : Method, operation.method = method.name
  named : ∀ parameter ∈ operation.input.parameters, parameter.name ≠ ""

/-! ## Building -/

/-- A parameter without a name is not built. -/
theorem Parameter.name_ne_empty {object : ParameterObject} {context : String}
    {parameter : Parameter} (built : ofObject object context = .ok parameter) :
    parameter.name ≠ "" := by
  unfold ofObject at built
  split at built
  · cases built
  · cases built
  · next name schema named _ =>
      obtain ⟨model, _, rest⟩ := Outcome.bind_eq_ok_iff.mp built
      cases rest
      have filled := (Option.filter_eq_some_iff.mp named).2
      simpa [String.isEmpty_iff] using filled

namespace Definitions

variable {definitions : Definitions}

theorem name_ne_empty_of_parameterFor {operationId : String} {object : ParameterObject}
    {location : ParameterLocation} {parameter : Parameter}
    (named : ∀ entry ∈ definitions.parameters, entry.2.name ≠ "")
    (built : definitions.parameterFor operationId object = .ok (location, parameter)) :
    parameter.name ≠ "" := by
  rw [parameterFor] at built
  cases ref : object.ref with
  | none =>
      rw [ref] at built
      obtain ⟨own, ofObject, rest⟩ := Outcome.bind_eq_ok_iff.mp built
      obtain ⟨_, rfl⟩ := eq_of_located rest
      exact Parameter.name_ne_empty ofObject
  | some pointer =>
      rw [ref] at built
      obtain ⟨definition, _, rest⟩ := Outcome.bind_eq_ok_iff.mp built
      cases known : definitions.parameters.get? (pointerName pointer) with
      | none =>
          rw [known] at rest
          cases rest
      | some other =>
          rw [known] at rest
          obtain ⟨_, rfl⟩ := eq_of_located rest
          exact named _ (Entries.mem_of_get? known)

theorem name_ne_empty_of_mergedParameters {operationId : String} {objects : List ParameterObject}
    {merged : Entries (String × ParameterLocation) Parameter}
    (named : ∀ entry ∈ definitions.parameters, entry.2.name ≠ "")
    (built : definitions.mergedParameters operationId objects = .ok merged) :
    ∀ entry ∈ merged, entry.2.name ≠ "" := by
  obtain ⟨resolved, each, rest⟩ := Outcome.bind_eq_ok_iff.mp built
  cases rest
  intro entry member
  obtain ⟨located, isResolved, rfl⟩ := List.mem_map.mp (Entries.mem_of_mem_ofList member)
  obtain ⟨object, _, step⟩ :=
    Entries.exists_left_of_forall₂ (Outcome.mapM_eq_ok_iff.mp each) isResolved
  exact name_ne_empty_of_parameterFor named step

/-- Operations are built as they are declared. -/
theorem declared_of_operationAt {uri : String} {method : Method} {shared : List ParameterObject}
    {object : OperationObject} {operation : Operation} {diagnostics : List Diagnostic}
    (named : ∀ entry ∈ definitions.parameters, entry.2.name ≠ "")
    (built : definitions.operationAt uri method shared object = .ok (operation, diagnostics)) :
    operation.Declared := by
  obtain ⟨merged, _, _, _, isMerged, _, _, rfl⟩ := operationAt_eq_ok_iff.mp built
  have located : ∀ location, ∀ parameter ∈ parametersAt merged location,
      parameter.name ≠ "" := by
    intro location parameter member
    obtain ⟨entry, isKept, rfl⟩ := List.mem_map.mp member
    exact name_ne_empty_of_mergedParameters named isMerged entry (List.mem_of_mem_filter isKept)
  constructor
  · exact ⟨method, rfl⟩
  · simp only [OperationInput.parameters, List.forall_mem_append]
    exact ⟨⟨located .path, located .query⟩, located .header⟩

theorem declared_of_operations {operations : List Operation} {diagnostics : List Diagnostic}
    (named : ∀ entry ∈ definitions.parameters, entry.2.name ≠ "")
    (built : definitions.operations = .ok (operations, diagnostics)) :
    ∀ operation ∈ operations, operation.Declared := by
  obtain ⟨results, each, wrapped⟩ := Outcome.bind_eq_ok_iff.mp built
  cases wrapped
  rw [List.forall_mem_map]
  intro result member
  obtain ⟨_, _, step⟩ := Entries.exists_left_of_forall₂ (Outcome.mapM_eq_ok_iff.mp each) member
  exact declared_of_operationAt named step

end Definitions

/-! ## Hoisting -/

namespace Hoist

/-- What one step gives in every registry, a row of steps gives for each item. -/
theorem forall_mem_mapM {α β : Type} {step : α → Hoist β} {holds : β → Prop} {items : List α}
    (each : ∀ item ∈ items, ∀ registry, holds ((step item).run registry).1)
    (registry : ModelRegistry) : ∀ result ∈ ((items.mapM step).run registry).1, holds result := by
  induction items generalizing registry with
  | nil =>
      intro result member
      cases member
  | cons item rest ih =>
      rw [List.mapM_cons]
      change ∀ result ∈ ((step item).run registry).1 ::
        ((rest.mapM step).run ((step item).run registry).2).1, holds result
      rw [List.forall_mem_cons]
      exact ⟨each item List.mem_cons_self registry,
        ih (fun other member => each other (List.mem_cons_of_mem item member)) _⟩

/-- Hoisting parameters keeps their names. -/
theorem map_name_hoistParameters (owner : String → String)
    (parameters : List (String × Parameter)) (registry : ModelRegistry) :
    ((hoistParameters owner parameters).run registry).1.map (fun entry => entry.2.name) =
      parameters.map fun entry => entry.2.name := by
  induction parameters generalizing registry with
  | nil => rfl
  | cons entry rest ih =>
      obtain ⟨name, parameter⟩ := entry
      exact congrArg (parameter.name :: ·) (ih _)

theorem map_name_hoistOperationParameters (base : String) (parameters : List Parameter)
    (registry : ModelRegistry) :
    ((hoistOperationParameters base parameters).run registry).1.map Parameter.name =
      parameters.map Parameter.name := by
  have kept := map_name_hoistParameters (fun name => base ++ Naming.typeName name)
    (parameters.map fun parameter => (parameter.name, parameter)) registry
  change (List.map Prod.snd _).map Parameter.name = _
  rw [List.map_map] at kept ⊢
  exact kept

end Hoist

/-- Hoisting an operation keeps what it has from its declaration. -/
theorem Operation.Declared.hoist {operation : Operation} (declared : operation.Declared)
    (registry : ModelRegistry) : (operation.hoist.run registry).1.Declared := by
  have kept : ∀ {parameters : List Parameter} (base : String) (registry : ModelRegistry),
      (∀ parameter ∈ parameters, parameter.name ≠ "") →
        ∀ parameter ∈ ((hoistOperationParameters base parameters).run registry).1,
          parameter.name ≠ "" := by
    intro parameters base registry named parameter member
    have isName := List.mem_map_of_mem (f := Parameter.name) member
    rw [Hoist.map_name_hoistOperationParameters] at isName
    obtain ⟨original, isOriginal, sameName⟩ := List.mem_map.mp isName
    exact sameName ▸ named original isOriginal
  have named := declared.named
  simp only [OperationInput.parameters, List.forall_mem_append] at named
  obtain ⟨⟨path, query⟩, header⟩ := named
  constructor
  · exact declared.method
  · simp only [OperationInput.parameters, List.forall_mem_append]
    exact ⟨⟨kept _ _ path, kept _ _ query⟩, kept _ _ header⟩

namespace Document

variable {document : Document}

/-- The parameters of the components have names. -/
theorem name_ne_empty_of_declaredParameters {parameters : Entries String Parameter}
    (declared : document.declaredParameters = .ok parameters) :
    ∀ entry ∈ parameters, entry.2.name ≠ "" := by
  intro entry member
  obtain ⟨_, _, step⟩ :=
    Entries.exists_left_of_forall₂ (Outcome.mapM_eq_ok_iff.mp declared) member
  obtain ⟨_, _, rest⟩ := Outcome.bind_eq_ok_iff.mp step
  obtain ⟨parameter, built, wrapped⟩ := Outcome.bind_eq_ok_iff.mp rest
  cases wrapped
  exact Parameter.name_ne_empty built

/-- The operations of a draft are as they are declared. -/
theorem declared_of_draft {draft : Draft} (drafted : document.draft = .ok draft) :
    ∀ operation ∈ draft.operations, operation.Declared := by
  obtain ⟨declared, _, rest⟩ := Outcome.bind_eq_ok_iff.mp drafted
  obtain ⟨parameters, parametersDeclared, rest⟩ := Outcome.bind_eq_ok_iff.mp rest
  obtain ⟨built, operationsBuilt, wrapped⟩ := Outcome.bind_eq_ok_iff.mp rest
  cases wrapped
  apply Hoist.forall_mem_mapM
  intro operation member registry
  apply Operation.Declared.hoist
  refine Definitions.declared_of_operations ?_ operationsBuilt operation member
  intro entry isKnown
  have isName := List.mem_map_of_mem (f := fun entry => entry.2.name) isKnown
  rw [Hoist.map_name_hoistParameters] at isName
  obtain ⟨original, isOriginal, sameName⟩ := List.mem_map.mp isName
  exact sameName ▸ name_ne_empty_of_declaredParameters parametersDeclared original isOriginal

/-- The operations of a built service are as they are declared. -/
theorem declared_of_service {service : Service} (built : document.service = .ok service) :
    ∀ operation ∈ service.operations, operation.Declared := by
  obtain ⟨draft, order, drafted, _, _, _, rfl⟩ := Document.exists_draft_of_service built
  exact declared_of_draft drafted

end Document

end ApiScaffold
