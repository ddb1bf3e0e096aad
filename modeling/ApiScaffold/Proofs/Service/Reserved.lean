import ApiScaffold.Service.Build
import Mathlib.Data.List.Basic

/-!
# Reserved names in any order

A registry only asks whether a type name is reserved, and how many are.  So every step that
registers models does the same if the reserved names stand in another order, and it leaves them
as they are.
-/

namespace ApiScaffold

namespace ModelRegistry

variable {models : Entries String Model} {reserved others : List String}

/-- The order of reserved names does not matter for the name that a model gets. -/
theorem nameFor_eq_of_perm (perm : reserved.Perm others) (name : String) (model : Model) :
    nameFor ⟨models, reserved⟩ name model = nameFor ⟨models, others⟩ name model := by
  have sameAttempts : attempts ⟨models, reserved⟩ = attempts ⟨models, others⟩ := by
    simp only [attempts, perm.length_eq]
  have sameTest : ∀ candidate, (holds ⟨models, reserved⟩ candidate model ||
      isFree ⟨models, reserved⟩ candidate) =
        (holds ⟨models, others⟩ candidate model || isFree ⟨models, others⟩ candidate) := by
    intro candidate
    simp only [holds, isFree, typeNames, perm.contains_eq]
  simp only [nameFor, sameAttempts, sameTest]

end ModelRegistry

namespace Hoist

variable {α β : Type}

/-- A step that does the same in every order of the reserved names, which it keeps. -/
def Unordered (step : Hoist α) : Prop :=
  ∀ models {reserved others : List String}, reserved.Perm others → ∃ value after,
    step.run ⟨models, reserved⟩ = (value, ⟨after, reserved⟩) ∧
      step.run ⟨models, others⟩ = (value, ⟨after, others⟩)

theorem Unordered.pure (value : α) : Unordered (Pure.pure value) :=
  fun models _ _ _ => ⟨value, models, rfl, rfl⟩

theorem Unordered.bind {first : Hoist α} {next : α → Hoist β} (unordered : first.Unordered)
    (continues : ∀ value, (next value).Unordered) : Unordered (first >>= next) := by
  intro models reserved others perm
  obtain ⟨value, between, run, otherRun⟩ := unordered models perm
  obtain ⟨result, after, nextRun, otherNextRun⟩ := continues value between perm
  refine ⟨result, after, ?_, ?_⟩
  · rw [StateT.run_bind, run]
    exact nextRun
  · rw [StateT.run_bind, otherRun]
    exact otherNextRun

/-- A step on every item is unordered if it is for each. -/
theorem Unordered.mapM {step : α → Hoist β} (each : ∀ item, (step item).Unordered)
    (items : List α) : Unordered (items.mapM step) := by
  induction items with
  | nil => exact .pure []
  | cons item rest ih =>
      rw [List.mapM_cons]
      apply (each item).bind
      intro value
      apply ih.bind
      intro values
      exact .pure (value :: values)

/-- A step on what may be absent is unordered if it is for what is there. -/
theorem Unordered.optionMapM {step : α → Hoist β} (each : ∀ item, (step item).Unordered)
    (item : Option α) : Unordered (item.mapM step) := by
  cases item with
  | none => exact .pure none
  | some value =>
      rw [Option.mapM_some, ← bind_pure_comp]
      apply (each value).bind
      intro result
      exact .pure (some result)

/-- A model is registered under the same name, and nothing else changes. -/
theorem unordered_registerModel (name : String) (model : Model) :
    Unordered (registerModel name model) := by
  intro models reserved others perm
  have sameName := @ModelRegistry.nameFor_eq_of_perm models _ _ perm name model
  have register : ∀ names : List String,
      (registerModel name model).run ⟨models, names⟩ =
        ModelRegistry.register ⟨models, names⟩ name model := fun _ => rfl
  simp only [register, ModelRegistry.register, sameName, ModelRegistry.holds]
  split
  · next held => exact ⟨_, _, rfl, if_pos held⟩
  · next absent => exact ⟨_, _, rfl, if_neg absent⟩

end Hoist

/-! ## Hoisting -/

namespace Model

mutual

/-- Hoisting a model is unordered. -/
theorem unordered_hoist (model : Model) (owner : String) : (model.hoist owner).Unordered := by
  obtain ⟨kind, element, properties, name, description⟩ := model
  rw [hoist]
  by_cases isStruct : kind = .struct
  · rw [if_pos isStruct]
    apply (unordered_hoistEach properties owner).bind
    intro hoisted
    apply (Hoist.unordered_registerModel owner _).bind
    intro registered
    exact .pure _
  · rw [if_neg isStruct]
    apply (unordered_hoistElement element (owner ++ "Item")).bind
    intro hoisted
    exact .pure _
termination_by structural model

/-- Hoisting an element is unordered. -/
theorem unordered_hoistElement (element : Option Model) (owner : String) :
    (hoistElement element owner).Unordered := by
  match element with
  | none => exact .pure none
  | some element =>
      rw [hoistElement]
      apply (unordered_hoist element owner).bind
      intro hoisted
      exact .pure _
termination_by structural element

/-- Hoisting properties is unordered. -/
theorem unordered_hoistEach (properties : List (String × Model)) (owner : String) :
    (hoistEach properties owner).Unordered := by
  match properties with
  | [] => exact .pure []
  | (name, property) :: rest =>
      rw [hoistEach]
      apply (unordered_hoist property (owner ++ Naming.typeName name)).bind
      intro hoisted
      apply (unordered_hoistEach rest owner).bind
      intro others
      exact .pure _
termination_by structural properties

end

theorem unordered_hoistNested (model : Model) (owner : String) :
    (model.hoistNested owner).Unordered := by
  rw [hoistNested]
  by_cases isStruct : model.isStruct = true
  · rw [if_pos isStruct]
    apply (unordered_hoistEach model.properties owner).bind
    intro hoisted
    exact .pure _
  · rw [if_neg isStruct]
    exact model.unordered_hoist owner

end Model

theorem unordered_hoistDeclared (declared : List (String × Model)) :
    (hoistDeclared declared).Unordered := by
  induction declared with
  | nil => exact .pure ()
  | cons entry rest ih =>
      obtain ⟨name, model⟩ := entry
      rw [hoistDeclared]
      apply (model.unordered_hoistNested name).bind
      intro hoisted
      apply Hoist.Unordered.bind
      · intro models reserved others _
        exact ⟨(), models.put name hoisted, rfl, rfl⟩
      · intro _
        exact ih

theorem unordered_hoistParameters (owner : String → String)
    (parameters : List (String × Parameter)) : (hoistParameters owner parameters).Unordered := by
  induction parameters with
  | nil => exact .pure []
  | cons entry rest ih =>
      obtain ⟨name, parameter⟩ := entry
      rw [hoistParameters]
      apply (parameter.model.unordered_hoist (owner name)).bind
      intro hoisted
      apply ih.bind
      intro others
      exact .pure _

theorem unordered_hoistOperationParameters (base : String) (parameters : List Parameter) :
    (hoistOperationParameters base parameters).Unordered := by
  rw [hoistOperationParameters]
  apply (unordered_hoistParameters _ _).bind
  intro hoisted
  exact .pure _

theorem Operation.unordered_hoist (operation : Operation) : operation.hoist.Unordered := by
  rw [hoist]
  apply (Hoist.Unordered.optionMapM (fun model => model.unordered_hoist _) _).bind
  intro body
  apply (Hoist.Unordered.optionMapM (fun model => model.unordered_hoistNested _) _).bind
  intro outputBody
  apply (unordered_hoistOperationParameters _ _).bind
  intro path
  apply (unordered_hoistOperationParameters _ _).bind
  intro query
  apply (unordered_hoistOperationParameters _ _).bind
  intro header
  apply (unordered_hoistOperationParameters _ _).bind
  intro outputHeader
  exact .pure _

end ApiScaffold
