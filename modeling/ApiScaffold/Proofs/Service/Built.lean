import ApiScaffold.Proofs.Service.Declared

/-!
# Operations before they are hoisted

The operations of a service are built from the definitions of its document first, and then their
structs are hoisted.  Hoisting a parameter changes its model and nothing else.
-/

namespace ApiScaffold

/-- What the operations of a document are built from: its schemas and parameters, hoisted. -/
def Document.definitions (document : Document) : Outcome Definitions := do
  let declared ← document.declaredModels
  let settled := ((hoistDeclared declared).run ⟨declared, document.operationTypeNames⟩).2
  let declaredParameters ← document.declaredParameters
  let known :=
    (hoistParameters (fun name => Naming.typeName name ++ "Parameter") declaredParameters).run
      settled
  pure ⟨document, known.2.models, known.1⟩

/-- Build a declared operation. -/
def Definitions.build (definitions : Definitions) (declared : DeclaredOperation) :
    Outcome (Operation × List Diagnostic) :=
  definitions.operationAt declared.uri declared.method declared.shared declared.object

/-! ## Parameters that are hoisted -/

/-- Whether a parameter is another one with the structs in its model hoisted. -/
def Parameter.HoistedFrom (hoisted parameter : Parameter) : Prop :=
  ∃ (owner : String) (registry : ModelRegistry),
    hoisted = { parameter with model := ((parameter.model.hoist owner).run registry).1 }

theorem matches_hoistParameters (owner : String → String)
    (parameters : Entries String Parameter) (registry : ModelRegistry) :
    Entries.Matches (fun parameter hoisted => hoisted.HoistedFrom parameter) parameters
      ((hoistParameters owner parameters).run registry).1 := by
  induction parameters generalizing registry with
  | nil => exact .nil
  | cons entry rest ih => exact .cons ⟨rfl, owner entry.1, registry, rfl⟩ (ih _)

theorem forall₂_hoistOperationParameters (base : String) (parameters : List Parameter)
    (registry : ModelRegistry) :
    List.Forall₂ (fun parameter hoisted => hoisted.HoistedFrom parameter) parameters
      ((hoistOperationParameters base parameters).run registry).1 := by
  have matching := matches_hoistParameters (fun name => base ++ Naming.typeName name)
    (parameters.map fun parameter => (parameter.name, parameter)) registry
  change List.Forall₂ _ parameters (List.map Prod.snd _)
  rw [List.forall₂_map_right_iff]
  exact List.Forall₂.imp (fun _ _ isHoisted => isHoisted.2) (List.forall₂_map_left_iff.mp matching)

/-! ## Operations that are hoisted -/

/-- Whether an operation is another one with its structs hoisted. -/
def Operation.HoistedFrom (hoisted operation : Operation) : Prop :=
  ∃ registry : ModelRegistry, hoisted = (operation.hoist.run registry).1

theorem Hoist.forall₂_mapM {α β : Type} (step : α → Hoist β) (items : List α)
    (registry : ModelRegistry) :
    List.Forall₂ (fun item result => ∃ registry, result = ((step item).run registry).1) items
      ((items.mapM step).run registry).1 := by
  induction items generalizing registry with
  | nil => exact .nil
  | cons item rest ih =>
      rw [List.mapM_cons]
      exact .cons ⟨registry, rfl⟩ (ih _)

namespace Document

variable {document : Document}

/-- The definitions of a document are about this document, and their parameters are the declared
ones, hoisted. -/
theorem definitions_spec {definitions : Definitions}
    (defined : document.definitions = .ok definitions) :
    definitions.document = document ∧
      ∃ declared, document.declaredParameters = .ok declared ∧
        Entries.Matches (fun parameter hoisted => hoisted.HoistedFrom parameter) declared
          definitions.parameters := by
  rcases Outcome.bind_eq_ok_iff.mp defined with ⟨models, _, rest⟩
  rcases Outcome.bind_eq_ok_iff.mp rest with ⟨declared, isDeclared, wrapped⟩
  cases wrapped
  exact ⟨rfl, declared, isDeclared, matches_hoistParameters _ _ _⟩

/-- The operations of a draft are built from the definitions of the document and hoisted. -/
theorem exists_definitions_of_draft {draft : Draft} (drafted : document.draft = .ok draft) :
    ∃ definitions operations, document.definitions = .ok definitions ∧
      definitions.operations = .ok (operations, draft.diagnostics) ∧
        List.Forall₂ (fun operation hoisted => hoisted.HoistedFrom operation) operations
          draft.operations := by
  rcases Outcome.bind_eq_ok_iff.mp drafted with ⟨models, isModels, rest⟩
  rcases Outcome.bind_eq_ok_iff.mp rest with ⟨parameters, isParameters, rest⟩
  rcases Outcome.bind_eq_ok_iff.mp rest with ⟨⟨operations, diagnostics⟩, built, wrapped⟩
  cases wrapped
  refine ⟨_, operations, ?_, built, Hoist.forall₂_mapM Operation.hoist operations _⟩
  simp only [definitions, isModels, isParameters, bind, Except.bind]
  rfl

/-- The operations of a service are built from the definitions of the document and hoisted. -/
theorem exists_definitions_of_service {service : Service}
    (built : document.service = .ok service) :
    ∃ definitions operations, document.definitions = .ok definitions ∧
      definitions.operations = .ok (operations, service.diagnostics) ∧
        List.Forall₂ (fun operation hoisted => hoisted.HoistedFrom operation) operations
          service.operations := by
  rcases exists_draft_of_service built with ⟨draft, order, drafted, _, _, _, rfl⟩
  exact exists_definitions_of_draft drafted

end Document

end ApiScaffold
