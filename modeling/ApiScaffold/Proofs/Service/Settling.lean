import ApiScaffold.Proofs.Service.Hoisting
import ApiScaffold.Proofs.Service.Places

/-!
# Hoisting in place

The models of the components are hoisted one after the other, and each result takes the
place of its model while those after it are still to be hoisted.  A pending model that is
flat already stays as it is, so a struct may be registered under its name before its turn
comes.  In the end every model has its hoisted form, and no later growth changes it.
-/

namespace ApiScaffold

variable {source : String → Prop}

theorem mem_keys_of_isPrefix {first second : Entries String Model}
    (isPrefix : first.keys <+: second.keys) {name : String} (member : name ∈ first.keys) :
    name ∈ second.keys :=
  isPrefix.subset member

/-- Writing an entry leaves the keys that are there in front. -/
theorem keys_isPrefix_put (entries : Entries String Model) (name : String) (model : Model) :
    entries.keys <+: (entries.put name model).keys := by
  rw [Entries.keys_put]
  split
  · exact List.prefix_refl _
  · exact List.prefix_append _ _

namespace ModelRegistry

/-- The registry after the first of some pending models took its place. -/
def settleOne (registry : ModelRegistry) (name : String) (raw : Model) : ModelRegistry :=
  let run := (raw.hoistNested name).run registry
  { run.2 with models := run.2.models.put name run.1 }

theorem settleOne_models (registry : ModelRegistry) (name : String) (raw : Model) :
    (registry.settleOne name raw).models =
      ((raw.hoistNested name).run registry).2.models.put name
        ((raw.hoistNested name).run registry).1 := rfl

end ModelRegistry

theorem hoistDeclared_cons_run (registry : ModelRegistry) (name : String) (raw : Model)
    (rest : Entries String Model) :
    (hoistDeclared ((name, raw) :: rest)).run registry =
      (hoistDeclared rest).run (registry.settleOne name raw) := rfl

/-- Hoisting in place leaves the names that are there in front. -/
theorem keys_isPrefix_hoistDeclared {pending : Entries String Model}
    (ready : ∀ entry ∈ pending, entry.2.Shaped ∧ entry.2.RefersWithin source)
    (registry : ModelRegistry) :
    registry.models.keys <+: ((hoistDeclared pending).run registry).2.models.keys := by
  induction pending generalizing registry with
  | nil => exact List.prefix_refl _
  | cons entry rest ih =>
      obtain ⟨name, raw⟩ := entry
      obtain ⟨shaped, within⟩ := ready _ List.mem_cons_self
      obtain ⟨grows, _⟩ := shaped.gives_hoistNested within name registry trivial
      have here : registry.models.keys <+: (registry.settleOne name raw).models.keys :=
        grows.keys_isPrefix.trans (keys_isPrefix_put _ _ _)
      rw [hoistDeclared_cons_run]
      exact here.trans (ih (fun other member => ready other (List.mem_cons_of_mem _ member)) _)

/-- After one model took its place, a model is another one that is still there, or it is flat
and refers to nothing but named models and the source. -/
theorem settleOne_old_or_flat {raw : Model} (shaped : raw.Shaped)
    (within : raw.RefersWithin source) {registry : ModelRegistry} {first name : String}
    {model : Model} (found : (registry.settleOne first raw).models.get? name = some model) :
    (first ≠ name ∧ registry.models.get? name = some model) ∨
      model.Flat ∧ model.Sourced source (registry.settleOne first raw).models := by
  obtain ⟨grows, below⟩ := shaped.gives_hoistNested within first registry trivial
  have here := below _ (KeepsFlat.refl _)
  have isPrefix := keys_isPrefix_put ((raw.hoistNested first).run registry).2.models first
    ((raw.hoistNested first).run registry).1
  have later : ∀ target, source target ∨
      target ∈ ((raw.hoistNested first).run registry).2.models.keys →
        source target ∨ target ∈ (registry.settleOne first raw).models.keys :=
    fun target => Or.imp_right (mem_keys_of_isPrefix isPrefix)
  rw [ModelRegistry.settleOne_models] at found
  by_cases equal : first = name
  · subst equal
    rw [Entries.get?_put_self] at found
    cases found
    exact Or.inr ⟨here.flat, (here.sourced within).imp later⟩
  · rw [Entries.get?_put_of_ne _ _ equal] at found
    rcases grows.get?_or_added found with old | ⟨flat, sourced⟩
    · exact Or.inl ⟨equal, old⟩
    · exact Or.inr ⟨flat, sourced.imp later⟩

/-- After hoisting in place, a model is one that was not pending and is still there, or it is
flat and refers to nothing but named models and the source. -/
theorem hoistDeclared_old_or_flat {pending : Entries String Model}
    (ready : ∀ entry ∈ pending, entry.2.Shaped ∧ entry.2.RefersWithin source)
    {registry : ModelRegistry} {name : String} {model : Model}
    (found : ((hoistDeclared pending).run registry).2.models.get? name = some model) :
    (name ∉ pending.keys ∧ registry.models.get? name = some model) ∨
      model.Flat ∧ model.Sourced source ((hoistDeclared pending).run registry).2.models := by
  induction pending generalizing registry with
  | nil => exact Or.inl ⟨by simp, found⟩
  | cons entry rest ih =>
      obtain ⟨first, raw⟩ := entry
      obtain ⟨shaped, within⟩ := ready _ List.mem_cons_self
      have readyRest : ∀ other ∈ rest, other.2.Shaped ∧ other.2.RefersWithin source :=
        fun other member => ready other (List.mem_cons_of_mem _ member)
      have isPrefix := keys_isPrefix_hoistDeclared readyRest (registry.settleOne first raw)
      rw [hoistDeclared_cons_run] at found ⊢
      rcases ih readyRest found with ⟨absent, middle⟩ | new
      · rcases settleOne_old_or_flat shaped within middle with ⟨different, old⟩ | ⟨flat, sourced⟩
        · refine Or.inl ⟨?_, old⟩
          rw [Entries.keys_cons, List.mem_cons, not_or]
          exact ⟨Ne.symm different, absent⟩
        · exact Or.inr ⟨flat, sourced.imp fun _ => Or.imp_right (mem_keys_of_isPrefix isPrefix)⟩
      · exact Or.inr new

/-- What hoisting pending models in place does to flat models and to the pending ones. -/
structure Settles (pending : Entries String Model) (start after : ModelRegistry) : Prop where
  keepsFlat : KeepsFlat start.models after.models
  below : ∀ {name raw}, (name, raw) ∈ pending → ∀ later, KeepsFlat after.models later →
    ∃ hoisted, later.get? name = some hoisted ∧ Model.HoistedBelow later raw hoisted

/-- A hoisted model takes the place of its model without touching flat models. -/
theorem keepsFlat_put {registry after : ModelRegistry} {name : String} {raw hoisted : Model}
    (run : (raw.hoistNested name).run registry = (hoisted, after))
    (found : after.models.get? name = some raw) :
    KeepsFlat after.models (after.models.put name hoisted) := by
  intro other model foundOther flat
  by_cases equal : name = other
  · subst equal
    rw [found] at foundOther
    cases foundOther
    rw [flat.hoistNested_eq] at run
    cases run
    exact Entries.get?_put_self _ _ _
  · rw [Entries.get?_put_of_ne _ _ equal]
    exact foundOther

/-- One model is hoisted and takes its place; the others are pending. -/
theorem Settles.step {registry middle after : ModelRegistry} {name : String}
    {raw hoisted : Model} {rest : Entries String Model}
    (grows : registry.Grows source middle)
    (below : ∀ later, KeepsFlat middle.models later → Model.HoistedBelow later raw hoisted)
    (keeps : KeepsFlat middle.models (middle.models.put name hoisted))
    (settles : Settles rest { middle with models := middle.models.put name hoisted } after) :
    Settles ((name, raw) :: rest) registry after := by
  constructor
  · exact (grows.keepsFlat.trans keeps).trans settles.keepsFlat
  · intro other model member later kept
    rcases List.mem_cons.mp member with equal | inRest
    · cases equal
      have here := below later ((keeps.trans settles.keepsFlat).trans kept)
      refine ⟨hoisted, ?_, here⟩
      exact settles.keepsFlat.trans kept name hoisted (Entries.get?_put_self _ _ _) here.flat
    · exact settles.below inRest later kept

/-- Models that are still as they were declared are settled one after the other. -/
theorem settles_hoistDeclared {pending : Entries String Model} {registry : ModelRegistry}
    (raws : ∀ entry ∈ pending, registry.models.get? entry.1 = some entry.2)
    (distinct : pending.keys.Nodup)
    (ready : ∀ entry ∈ pending, entry.2.Shaped ∧ entry.2.RefersWithin source) :
    Settles pending registry ((hoistDeclared pending).run registry).2 := by
  induction pending generalizing registry with
  | nil =>
      constructor
      · exact .refl _
      · intro name raw member
        cases member
  | cons entry rest ih =>
      obtain ⟨name, raw⟩ := entry
      rw [Entries.keys_cons, List.nodup_cons] at distinct
      have inRest : ∀ other ∈ rest, other ∈ (name, raw) :: rest :=
        fun other => List.mem_cons_of_mem _
      obtain ⟨shaped, within⟩ := ready _ List.mem_cons_self
      obtain ⟨grows, below⟩ := shaped.gives_hoistNested within name registry trivial
      have run : (raw.hoistNested name).run registry =
        (((raw.hoistNested name).run registry).1, ((raw.hoistNested name).run registry).2) := rfl
      have found := grows.get?_eq_some (raws _ List.mem_cons_self)
      rw [hoistDeclared_cons_run]
      apply Settles.step grows below (keepsFlat_put run found)
      apply ih _ distinct.2 (fun other member => ready other (inRest other member))
      intro other member
      have isKey : other.1 ∈ Entries.keys rest := List.mem_map_of_mem member
      have different : name ≠ other.1 := by
        rintro rfl
        exact distinct.1 isKey
      rw [Entries.get?_put_of_ne _ _ different]
      exact grows.get?_eq_some (raws other (inRest other member))

/-! ## Parameters and operations -/

namespace Hoist

variable {before : Entries String Model → Prop}

/-- Hoisting the models of parameters changes nothing else. -/
theorem gives_hoistParameters {parameters : Entries String Parameter}
    (ready : ∀ entry ∈ parameters,
      entry.2.model.Shaped ∧ entry.2.model.RefersWithin source)
    (owner : String → String) :
    Gives source before (hoistParameters owner parameters) fun later =>
      Entries.Matches (fun declared hoisted => hoisted.name = declared.name ∧
        Model.HoistedIn later declared.model hoisted.model) parameters := by
  induction parameters generalizing before with
  | nil => exact .pure fun _ => .nil
  | cons entry rest ih =>
      obtain ⟨name, parameter⟩ := entry
      obtain ⟨shaped, within⟩ := ready _ List.mem_cons_self
      rw [hoistParameters]
      apply (shaped.gives_hoist within (owner name)).weaken.bind
      intro model
      apply (ih fun other member => ready other (List.mem_cons_of_mem _ member)).bind
      intro others
      exact .pure fun _ rests here => .cons ⟨rfl, rfl, here⟩ rests

/-- Hoisting the parameters of an operation keeps their names. -/
theorem gives_hoistOperationParameters {parameters : List Parameter} {base : String}
    (ready : ∀ parameter ∈ parameters,
      parameter.model.Shaped ∧ parameter.model.RefersWithin source) :
    Gives source before (hoistOperationParameters base parameters) fun later hoisted =>
      Entries.Matches (Model.HoistedIn later) (parameters.map Parameter.entry)
        (hoisted.map Parameter.entry) := by
  have readyEntries : ∀ entry ∈ parameters.map fun parameter => (parameter.name, parameter),
      entry.2.model.Shaped ∧ entry.2.model.RefersWithin source := by
    rw [List.forall_mem_map]
    exact ready
  apply (gives_hoistParameters readyEntries _).bind
  intro hoisted
  apply Gives.pure
  intro later matching
  rw [List.map_map]
  apply List.forall₂_map_left_iff.mpr
  apply List.forall₂_map_right_iff.mpr
  apply List.Forall₂.imp _ (List.forall₂_map_left_iff.mp matching)
  rintro parameter ⟨_, other⟩ ⟨rfl, sameName, inside⟩
  exact ⟨sameName.symm, inside⟩

/-- A step on what may be absent gives its result if it is there. -/
theorem Gives.optionMapM {α β : Type} {step : α → Hoist β}
    {result : Entries String Model → α → β → Prop} {item : Option α}
    (each : ∀ value ∈ item, Gives source (fun _ => True) (step value)
      fun later => result later value) :
    Gives source before (item.mapM step) fun later => Option.Rel (result later) item := by
  cases item with
  | none => exact .pure fun _ => .none
  | some value =>
      rw [Option.mapM_some, ← bind_pure_comp]
      apply (each value rfl).weaken.bind
      intro hoisted
      exact .pure fun _ here => .some here

/-- Hoisting an operation gives the hoisted form of every model in it; the body of the output
keeps its own struct. -/
theorem gives_hoistOperation {operation : Operation}
    (ready : ∀ model ∈ operation.places.all, model.Shaped ∧ model.RefersWithin source) :
    Gives source before operation.hoist fun later hoisted =>
      hoisted.id = operation.id ∧
        operation.places.Related (Model.HoistedIn later) (Model.HoistedBelow later)
          hoisted.places := by
  obtain ⟨path, query, header, body, outputHeader, outputBody⟩ :=
    (Places.forall_mem_all_iff _).mp ready
  simp only [Operation.places, List.forall_mem_map]
    at path query header body outputHeader outputBody
  apply (Gives.optionMapM fun model member =>
    (body model member).1.gives_hoist (body model member).2 _).bind
  intro hoistedBody
  apply (Gives.optionMapM fun model member =>
    (outputBody model member).1.gives_hoistNested (outputBody model member).2 _).bind
  intro hoistedOutputBody
  apply (gives_hoistOperationParameters path).bind
  intro hoistedPath
  apply (gives_hoistOperationParameters query).bind
  intro hoistedQuery
  apply (gives_hoistOperationParameters header).bind
  intro hoistedHeader
  apply (gives_hoistOperationParameters outputHeader).bind
  intro hoistedOutputHeader
  apply Gives.pure
  intro later outputHeaders headers queries paths outputBodies bodies
  exact ⟨rfl, paths, queries, headers, bodies, outputHeaders, outputBodies⟩

end Hoist

end ApiScaffold
