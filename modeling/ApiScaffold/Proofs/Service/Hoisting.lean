import ApiScaffold.Proofs.Service.Hoisted
import ApiScaffold.Proofs.Service.Registration

/-!
# What hoisting does

`Hoist.Gives` is the contract of a step that registers models: the registry grows, and
what the step returns has a property that no later registry takes away.  Contracts of
steps in a row combine.  The contract of hoisting a model is that it returns the hoisted
form of the model.

A model without nested structs is not changed by hoisting, and nothing is registered.
-/

namespace ApiScaffold

/-- What a growing registry holds stays. -/
theorem ModelRegistry.Grows.keepsFlat {source : String → Prop} {start after : ModelRegistry}
    (grows : start.Grows source after) : KeepsFlat start.models after.models :=
  fun _ _ found _ => grows.get?_eq_some found

namespace Hoist

variable {α β : Type} {source : String → Prop} {before : Entries String Model → Prop}

/-- A step that lets a registry grow if it is as it should be before, with a result that has
a property as long as flat models are kept. -/
def Gives (source : String → Prop) (before : Entries String Model → Prop) (step : Hoist α)
    (result : Entries String Model → α → Prop) : Prop :=
  ∀ registry, before registry.models → registry.Grows source (step.run registry).2 ∧
    ∀ later, KeepsFlat (step.run registry).2.models later → result later (step.run registry).1

/-- A step that does nothing. -/
theorem Gives.pure {result : Entries String Model → α → Prop} {value : α}
    (holds : ∀ later, result later value) : Gives source before (Pure.pure value) result :=
  fun _ _ => ⟨.refl, fun later _ => holds later⟩

/-- Two steps in a row.  What the first one gives holds before the second and after it. -/
theorem Gives.bind {first : Hoist α} {next : α → Hoist β}
    {between : Entries String Model → α → Prop} {result : Entries String Model → β → Prop}
    (gives : Gives source before first between)
    (continues : ∀ value, Gives source (fun models => between models value) (next value)
      fun later final => between later value → result later final) :
    Gives source before (first >>= next) result := by
  intro registry holds
  obtain ⟨growsFirst, firstHolds⟩ := gives registry holds
  obtain ⟨growsNext, nextHolds⟩ := continues (first.run registry).1 (first.run registry).2
    (firstHolds _ (KeepsFlat.refl _))
  constructor
  · exact growsFirst.trans growsNext
  · intro later keeps
    exact nextHolds later keeps (firstHolds later (growsNext.keepsFlat.trans keeps))

theorem Gives.imp {step : Hoist α} {strong weak : Entries String Model → α → Prop}
    (gives : Gives source before step strong)
    (implies : ∀ later value, strong later value → weak later value) :
    Gives source before step weak :=
  fun registry holds => ⟨(gives registry holds).1, fun later keeps =>
    implies later _ ((gives registry holds).2 later keeps)⟩

/-- A step that needs nothing of the registry before. -/
theorem Gives.weaken {step : Hoist α} {result : Entries String Model → α → Prop}
    (gives : Gives source (fun _ => True) step result) : Gives source before step result :=
  fun registry _ => gives registry trivial

/-- A step on every item gives its result for each of them. -/
theorem Gives.mapM {step : α → Hoist β} {result : Entries String Model → α → β → Prop}
    {items : List α}
    (each : ∀ item ∈ items,
      Gives source (fun _ => True) (step item) fun later => result later item) :
    Gives source before (items.mapM step)
      fun later values => List.Forall₂ (result later) items values := by
  induction items generalizing before with
  | nil => exact .pure fun _ => .nil
  | cons item rest ih =>
      rw [List.mapM_cons]
      apply (each item List.mem_cons_self).weaken.bind
      intro value
      apply (ih fun other member => each other (List.mem_cons_of_mem item member)).bind
      intro values
      exact .pure fun _ rests here => .cons here rests

/-- Registering a flat model gives a name under which the model is found, descriptions
apart. -/
theorem gives_registerModel (name : String) {model : Model}
    (flat : ∀ models, before models → model.Flat)
    (sourced : ∀ models, before models → model.Sourced source models) :
    Gives source before (registerModel name model) fun later chosen =>
      ∃ existing, later.get? chosen = some existing ∧ existing.bare = model.bare := by
  intro registry holds
  obtain ⟨grows, existing, found, equal⟩ :=
    registry.register_spec name (flat _ holds) (sourced _ holds)
  constructor
  · exact grows
  · intro later keeps
    exact ⟨existing, keeps _ existing found ((flat _ holds).of_bare_eq equal), equal⟩

end Hoist

namespace Model

/-! ## The rules of hoisting -/

theorem hoist_of_isPrimitive {kind : ModelKind} (primitive : kind.isPrimitive = true)
    (description : Option String) (owner : String) :
    (ofKind kind description).hoist owner = pure (ofKind kind description) := by
  have noStruct : kind ≠ .struct := ModelKind.ne_of_isPrimitive primitive rfl
  simp [ofKind, hoist, hoistElement, noStruct]

theorem hoist_array (element : Model) (description : Option String) (owner : String) :
    (array element description).hoist owner =
      element.hoist (owner ++ "Item") >>= fun hoisted => pure (array hoisted description) := by
  simp [array, hoist, hoistElement]

theorem hoist_map (element : Model) (description : Option String) (owner : String) :
    (map element description).hoist owner =
      element.hoist (owner ++ "Item") >>= fun hoisted => pure (map hoisted description) := by
  simp [map, hoist, hoistElement]

theorem hoist_struct (properties : List (String × Model)) (description : Option String)
    (owner : String) :
    (struct properties description).hoist owner =
      hoistEach properties owner >>= fun hoisted =>
        registerModel owner (struct hoisted description) >>= fun name => pure (reference name) := by
  simp [struct, hoist]

theorem hoist_reference (name : String) (description : Option String) (owner : String) :
    (⟨.reference, none, [], some name, description⟩ : Model).hoist owner =
      pure ⟨.reference, none, [], some name, description⟩ := by
  simp [hoist, hoistElement]

theorem hoistNested_struct (properties : List (String × Model)) (description : Option String)
    (owner : String) :
    (struct properties description).hoistNested owner =
      hoistEach properties owner >>= fun hoisted => pure (struct hoisted description) := rfl

theorem hoistNested_of_isStruct_eq_false {model : Model} (noStruct : model.isStruct = false)
    (owner : String) : model.hoistNested owner = model.hoist owner := by
  simp [hoistNested, noStruct]

/-! ## The contract of hoisting -/

variable {source : String → Prop} {before : Entries String Model → Prop}

/-- If hoisting gives the hoisted form of each property, it does for all of them. -/
theorem gives_hoistEach {properties : List (String × Model)}
    (each : ∀ property ∈ properties, ∀ owner,
      Hoist.Gives source (fun _ => True) (property.2.hoist owner)
        fun later => HoistedIn later property.2)
    (owner : String) :
    Hoist.Gives source before (hoistEach properties owner) fun later =>
      Entries.Matches (HoistedIn later) properties := by
  induction properties generalizing before with
  | nil => exact .pure fun _ => .nil
  | cons property rest ih =>
      obtain ⟨name, model⟩ := property
      rw [hoistEach]
      apply (each (name, model) List.mem_cons_self _).weaken.bind
      intro hoisted
      apply (ih fun other member => each other (List.mem_cons_of_mem _ member)).bind
      intro others
      exact .pure fun _ rests here => .cons ⟨rfl, here⟩ rests

/-- Hoisting gives the hoisted form of a model. -/
theorem Shaped.gives_hoist {raw : Model} (shaped : raw.Shaped)
    (within : raw.RefersWithin source) (owner : String) :
    Hoist.Gives source (fun _ => True) (raw.hoist owner) fun later => HoistedIn later raw := by
  induction shaped generalizing owner with
  | basic primitive description =>
      rw [hoist_of_isPrimitive primitive]
      exact .pure fun _ => .basic primitive _ _
  | array _ description ih =>
      rw [hoist_array]
      apply (ih ((refersWithin_array _ _).mp within) _).bind
      intro hoisted
      exact .pure fun _ inside => .array inside _ _
  | map _ description ih =>
      rw [hoist_map]
      apply (ih ((refersWithin_map _ _).mp within) _).bind
      intro hoisted
      exact .pure fun _ inside => .map inside _ _
  | @struct properties _ description ih =>
      rw [hoist_struct]
      have each : ∀ property ∈ properties, ∀ owner,
          Hoist.Gives source (fun _ => True) (property.2.hoist owner)
            fun later => HoistedIn later property.2 := by
        intro property member
        exact ih property member (RefersWithin.of_mem_properties within member)
      apply (gives_hoistEach each owner).bind
      intro hoisted
      refine (Hoist.gives_registerModel owner ?_ ?_).bind fun name => ?_
      · intro models matching
        exact .struct (plain_of_matches_hoistedIn matching) description
      · intro models matching
        exact sourced_of_matches_hoistedIn matching within description
      · refine .pure fun later registered matching => ?_
        obtain ⟨existing, found, equal⟩ := registered
        exact .of_registered matching found equal description
  | reference name description =>
      rw [hoist_reference]
      exact .pure fun _ => .reference _ _ _

/-- Hoisting below the top gives the hoisted form of a model whose own struct stays. -/
theorem Shaped.gives_hoistNested {raw : Model} (shaped : raw.Shaped)
    (within : raw.RefersWithin source) (owner : String) :
    Hoist.Gives source (fun _ => True) (raw.hoistNested owner)
      fun later => HoistedBelow later raw := by
  by_cases isStruct : raw.isStruct = true
  · obtain ⟨properties, description, rfl, each⟩ := shaped.exists_struct isStruct
    rw [hoistNested_struct]
    refine (gives_hoistEach ?_ owner).bind fun hoisted => ?_
    · intro property member
      exact (each property member).gives_hoist (RefersWithin.of_mem_properties within member)
    · exact .pure fun _ matching => .struct matching _ _
  · have noStruct : raw.isStruct = false := by simpa using isStruct
    rw [hoistNested_of_isStruct_eq_false noStruct]
    exact (shaped.gives_hoist within owner).imp fun _ _ inside => .other noStruct inside

/-! ## Models that are hoisted already -/

theorem Plain.hoist_eq {model : Model} (plain : model.Plain) (owner : String) :
    model.hoist owner = pure model := by
  induction plain generalizing owner with
  | basic primitive => exact hoist_of_isPrimitive primitive _ owner
  | array _ _ ih => rw [hoist_array, ih, pure_bind]
  | map _ _ ih => rw [hoist_map, ih, pure_bind]
  | reference => exact hoist_reference _ _ owner

theorem hoistEach_eq_of_plain {properties : List (String × Model)}
    (plain : ∀ property ∈ properties, property.2.Plain) (owner : String) :
    hoistEach properties owner = pure properties := by
  induction properties with
  | nil => rfl
  | cons property rest ih =>
      obtain ⟨name, model⟩ := property
      rw [hoistEach, (plain (name, model) List.mem_cons_self).hoist_eq,
        ih fun other member => plain other (List.mem_cons_of_mem _ member)]
      rfl

/-- A flat model stays as it is. -/
theorem Flat.hoistNested_eq {model : Model} (flat : model.Flat) (owner : String) :
    model.hoistNested owner = pure model := by
  cases flat with
  | plain plain =>
      rw [hoistNested_of_isStruct_eq_false plain.isStruct_eq_false]
      exact plain.hoist_eq owner
  | struct plain description =>
      rw [hoistNested_struct, hoistEach_eq_of_plain plain]
      rfl

end Model

end ApiScaffold
