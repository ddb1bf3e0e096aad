import ApiScaffold.Proofs.Emission.EmptyName
import ApiScaffold.Proofs.Emission.Held

/-!
# What Rust modules fail with

Every name has a name in Rust, so a Rust module of a built service fails with documented
failures only, whatever the names in the document are.
-/

namespace ApiScaffold.RustCode

open Outcome (FailsOnly)
open Failure (Documented)

variable {service : Service}

/-! ## Structs -/

/-- A field with a type is written, if it is known whether it has to be boxed. -/
theorem exists_fieldLines {owner : Option String} {identifier : String} {field : Field}
    (spells : service.Spells field.model)
    (boxes : ∀ name ∈ owner, ∃ boxed, isRecursive service name field.model = .ok boxed) :
    ∃ lines, fieldLines service owner identifier field = .ok lines := by
  obtain ⟨type, spelled⟩ := spells.rust
  rw [Target.renderType] at spelled
  rw [fieldLines, spelled]
  cases owner with
  | none => exact ⟨_, rfl⟩
  | some name =>
      obtain ⟨boxed, isBoxed⟩ := boxes name rfl
      simp only [isBoxed]
      exact ⟨_, rfl⟩

theorem failsOnly_allFieldLines {owner : Option String} {name : String} {seen : List String}
    {fields : List Field}
    (each : ∀ field ∈ fields, ∀ identifier,
      ∃ lines, fieldLines service owner identifier field = .ok lines) :
    FailsOnly Documented (allFieldLines service owner name seen fields) := by
  induction fields generalizing seen with
  | nil => exact .ok []
  | cons field rest ih =>
      rw [List.forall_mem_cons] at each
      rw [allFieldLines]
      dsimp only
      split
      · exact .error rfl
      · refine FailsOnly.bind (.of_exists (each.1 _)) ?_
        intro lines _
        apply (ih each.2).bind
        intro others _
        exact .ok _

theorem failsOnly_renderStruct {name : String} {fields : List Field}
    {documentation owner : Option String}
    (each : ∀ field ∈ fields, ∀ identifier,
      ∃ lines, fieldLines service owner identifier field = .ok lines) :
    FailsOnly Documented (renderStruct service name fields documentation owner) := by
  unfold renderStruct
  dsimp only
  split
  · exact .ok _
  · apply (failsOnly_allFieldLines each).bind
    intro lines _
    exact .ok _

/-- The struct of a named model fails for nothing but a name. -/
theorem failsOnly_renderModel (wellFormed : service.WellFormed) {name : String} {model : Model}
    (found : service.models.get? name = some model) :
    FailsOnly Documented (renderModel service name model) := by
  apply failsOnly_renderStruct
  rw [List.forall_mem_map]
  intro property member identifier
  have plain := (wellFormed.flat found).plain_of_mem_properties member
  have resolved := (wellFormed.resolved found).of_mem_properties member
  apply exists_fieldLines (wellFormed.spells plain resolved)
  intro owner _
  obtain ⟨boxed, isBoxed, _⟩ := exists_isRecursive wellFormed owner plain resolved
  exact ⟨boxed, isBoxed⟩

/-- The struct of the fields of an operation fails for nothing but a name. -/
theorem failsOnly_fieldsStruct {fields : Outcome (List Field)} {name : String}
    {documentation : Option String} (spells : service.SpellsFields fields) :
    FailsOnly Documented
      (fields >>= fun given => renderStruct service name given documentation none) := by
  rcases spells with ⟨given, rfl, each⟩ | ⟨repeated, owner, rfl⟩
  · apply failsOnly_renderStruct
    intro field member identifier
    exact exists_fieldLines (each field member) (fun _ impossible => nomatch impossible)
  · exact .error rfl

/-! ## Routes -/

/-- The table of routes fails for nothing but a name, if all methods exist. -/
theorem failsOnly_routeLines {seen : List String} {operations : List Operation}
    (declared : ∀ operation ∈ operations, operation.Declared) :
    FailsOnly Documented (routeLines seen operations) := by
  induction operations generalizing seen with
  | nil => exact .ok []
  | cons operation rest ih =>
      rw [List.forall_mem_cons] at declared
      obtain ⟨method, isMethod⟩ := declared.1.method
      rw [routeLines]
      dsimp only
      split
      · exact .error rfl
      · rw [isMethod, Method.ofName?_name]
        apply (ih declared.2).bind
        intro others _
        exact .ok _

/-! ## Modules -/

/-- Fields with types are there, or a name is repeated. -/
theorem failsOnly_of_spellsFields {fields : Outcome (List Field)}
    (spells : service.SpellsFields fields) : FailsOnly Documented fields := by
  rcases spells with ⟨given, rfl, _⟩ | ⟨repeated, owner, rfl⟩
  · exact .ok given
  · exact .error rfl

theorem failsOnly_hasStream {operations : List Operation}
    (spells : ∀ operation ∈ operations,
      service.SpellsFields (service.inputFields operation) ∧
        service.SpellsFields (service.outputFields operation)) :
    FailsOnly Documented (hasStream service operations) := by
  induction operations with
  | nil => exact .ok false
  | cons operation rest ih =>
      rw [List.forall_mem_cons] at spells
      rw [hasStream]
      apply (failsOnly_of_spellsFields spells.1.1).bind
      intro input _
      apply (failsOnly_of_spellsFields spells.1.2).bind
      intro output _
      split
      · exact .ok true
      · exact ih spells.2

section Built

variable {document : Document} (built : document.service = .ok service)
include built

theorem failsOnly_importBlock (models routes : Bool) :
    FailsOnly Documented (importBlock service models routes) := by
  have stream : FailsOnly Documented (hasStream service service.operations) :=
    failsOnly_hasStream fun operation member =>
      ((Document.service_spells built).2.2 operation member).2.2
  rw [importBlock]
  cases routes with
  | true => exact .ok _
  | false =>
      apply stream.bind
      intro web _
      exact .ok _

theorem failsOnly_renderModels : FailsOnly Documented (renderModels service) := by
  have wellFormed := Document.wellFormed_of_service built
  obtain ⟨structs, isStructs, perm⟩ := Document.exists_structs_perm built
  have blocks : FailsOnly Documented
      (structs.mapM fun entry => renderModel service entry.1 entry.2) := by
    apply FailsOnly.mapM
    intro entry member
    have inModels := (List.mem_filter.mp (perm.mem_iff.mp member)).1
    exact failsOnly_renderModel wellFormed
      (Entries.get?_eq_some_of_mem wellFormed.distinct inModels)
  rw [renderModels, isStructs]
  apply blocks.bind
  intro texts _
  exact .ok _

theorem failsOnly_renderBlocks (options : EmissionOptions) :
    FailsOnly Documented (renderBlocks service options) := by
  have operations : FailsOnly Documented (service.operations.mapM
      (operationBlock (renderInput service) (renderOutput service))) := by
    apply FailsOnly.mapM
    intro operation member
    obtain ⟨_, _, input, output⟩ := (Document.service_spells built).2.2 operation member
    apply (failsOnly_fieldsStruct input).bind
    intro inputText _
    apply (failsOnly_fieldsStruct output).bind
    intro outputText _
    exact .ok _
  rw [renderBlocks, codeBlocks]
  cases options.models with
  | true =>
      apply ((failsOnly_renderModels built).map _).bind
      intro first _
      apply operations.bind
      intro others _
      exact .ok _
  | false =>
      apply operations.bind
      intro others _
      exact .ok _

theorem failsOnly_renderRoutes : FailsOnly Documented (renderRoutes service) := by
  apply (failsOnly_routeLines (Document.declared_of_service built)).bind
  intro lines _
  exact .ok _

/-- A Rust module of a built service fails with documented failures only. -/
theorem failsOnly_renderModule (options : EmissionOptions) :
    FailsOnly Documented (renderModule service options) := by
  apply (failsOnly_importBlock built _ _).bind
  intro head _
  apply (failsOnly_renderBlocks built options).bind
  intro blocks _
  split
  · apply (failsOnly_renderRoutes built).bind
    intro routes _
    exact .ok _
  · exact .ok _

end Built

end ApiScaffold.RustCode
