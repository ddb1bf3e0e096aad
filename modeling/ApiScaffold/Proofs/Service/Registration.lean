import ApiScaffold.Proofs.Collection.Matching
import ApiScaffold.Proofs.Model.Shaped
import ApiScaffold.Proofs.Naming.Numbered
import ApiScaffold.Service.Hoisting
import Mathlib.Data.List.Nodup
import Mathlib.Data.List.Perm.Subperm

/-!
# Registered models

The names that are tried for a model have different type names, and one more of them is
tried than type names are in use.  So a model is always registered under a name that is
free, or under the name of the very same model; no model is ever replaced.

`ModelRegistry.Grows` is the run of a registry in which models are registered one after
the other.
-/

namespace ApiScaffold.ModelRegistry

/-- A name is free exactly if its type name is neither in use nor reserved. -/
theorem isFree_iff (registry : ModelRegistry) (name : String) :
    registry.isFree name = true ↔
      Naming.typeName name ∉ registry.typeNames ∧
        Naming.typeName name ∉ registry.reserved := by
  simp only [isFree, Bool.and_eq_true, Bool.not_eq_true', ← Bool.not_eq_true,
    Entries.hasKey_eq_true_iff, List.contains_iff_mem]
  constructor
  · rintro ⟨⟨_, unused⟩, unreserved⟩
    exact ⟨unused, unreserved⟩
  · rintro ⟨unused, unreserved⟩
    exact ⟨⟨fun present => unused (List.mem_map_of_mem present), unused⟩, unreserved⟩

/-- No model has a free name. -/
theorem not_mem_keys_of_isFree {registry : ModelRegistry} {name : String}
    (free : registry.isFree name = true) : name ∉ registry.models.keys := by
  intro present
  exact ((isFree_iff registry name).mp free).1 (List.mem_map_of_mem present)

/-- The names that are tried for a model have different type names. -/
theorem typeName_candidate_injective (name : String) :
    Function.Injective fun count => Naming.typeName (candidate name count) := by
  intro first second equal
  cases first with
  | zero =>
      cases second with
      | zero => rfl
      | succ second => exact absurd equal (Naming.typeName_ne_append name (second + 2))
  | succ first =>
      cases second with
      | zero => exact absurd equal.symm (Naming.typeName_ne_append name (first + 2))
      | succ second =>
          have numbers := Naming.typeName_append_injective name equal
          omega

/-- One of the names that are tried is free. -/
theorem exists_isFree (registry : ModelRegistry) (name : String) :
    ∃ count < registry.attempts, registry.isFree (candidate name count) = true := by
  by_contra! none
  let tried := (List.range registry.attempts).map fun count =>
    Naming.typeName (candidate name count)
  have distinct : tried.Nodup :=
    List.nodup_range.map (typeName_candidate_injective name)
  have used : tried ⊆ registry.typeNames ++ registry.reserved := by
    intro typeName member
    obtain ⟨count, inRange, rfl⟩ := List.mem_map.mp member
    have taken := none count (List.mem_range.mp inRange)
    rw [ne_eq, isFree_iff, not_and_or, not_not, not_not] at taken
    exact List.mem_append.mpr taken
  have tooMany := (distinct.subperm used).length_le
  have bound : registry.attempts ≤ registry.models.length + registry.reserved.length := by
    simpa [tried, typeNames, Entries.keys] using tooMany
  unfold attempts at bound
  omega

/-- A name holds a model exactly if it belongs to a model that differs in descriptions
only. -/
theorem holds_iff (registry : ModelRegistry) (name : String) (model : Model) :
    registry.holds name model = true ↔
      ∃ existing, registry.models.get? name = some existing ∧ existing.bare = model.bare := by
  unfold holds
  cases found : registry.models.get? name with
  | none => simp
  | some existing => simp [Model.same_iff_bare_eq]

/-- The chosen name is that of the very same model, or it is free. -/
theorem nameFor_spec (registry : ModelRegistry) (name : String) (model : Model) :
    registry.holds (registry.nameFor name model) model = true ∨
      registry.isFree (registry.nameFor name model) = true := by
  obtain ⟨count, inRange, free⟩ := registry.exists_isFree name
  unfold nameFor
  simp only
  cases found : ((List.range registry.attempts).map (candidate name)).find? fun name =>
      registry.holds name model || registry.isFree name with
  | none =>
      have rejected := List.find?_eq_none.mp found (candidate name count)
        (List.mem_map_of_mem (List.mem_range.mpr inRange))
      simp [free] at rejected
  | some chosen => simpa using List.find?_some found

/-- Registering a model finds the very same model, or adds the model under a free name. -/
theorem register_cases (registry : ModelRegistry) (name : String) (model : Model) :
    (∃ chosen existing, registry.register name model = (chosen, registry) ∧
        registry.models.get? chosen = some existing ∧ existing.bare = model.bare) ∨
      ∃ chosen, registry.isFree chosen = true ∧
        registry.register name model =
          (chosen, { registry with models := registry.models ++ [(chosen, model)] }) := by
  by_cases held : registry.holds (registry.nameFor name model) model = true
  · left
    obtain ⟨existing, found, equal⟩ := (holds_iff _ _ _).mp held
    exact ⟨registry.nameFor name model, existing, by simp [register, held], found, equal⟩
  · right
    have free := (registry.nameFor_spec name model).resolve_left held
    refine ⟨registry.nameFor name model, free, ?_⟩
    simp [register, held, Entries.put_eq_append model (not_mem_keys_of_isFree free)]

/-! ## Growth -/

/-- A registry that came from another one by giving free names to flat models.  What such a
model refers to is registered already, or a name of the given source. -/
inductive Grows (source : String → Prop) (start : ModelRegistry) : ModelRegistry → Prop
  | refl : Grows source start start
  | add {registry : ModelRegistry} (grows : Grows source start registry) {name : String}
      (free : registry.isFree name = true) {model : Model} (flat : model.Flat)
      (sourced : model.Sourced source registry.models) :
      Grows source start { registry with models := registry.models ++ [(name, model)] }

variable {source : String → Prop}

theorem Grows.trans {first second third : ModelRegistry} (early : first.Grows source second)
    (late : second.Grows source third) : first.Grows source third := by
  induction late with
  | refl => exact early
  | add _ free flat sourced ih => exact ih.add free flat sourced

/-- The models of a registry stay where they are, and others are added. -/
theorem Grows.exists_append {start after : ModelRegistry} (grows : start.Grows source after) :
    ∃ added : Entries String Model, after.models = start.models ++ added := by
  induction grows with
  | refl => exact ⟨[], by simp⟩
  | @add registry _ name _ model _ _ ih =>
      obtain ⟨added, models⟩ := ih
      exact ⟨added ++ [(name, model)], by simp [models]⟩

/-- The models of a registry keep their names. -/
theorem Grows.get?_eq_some {start after : ModelRegistry} (grows : start.Grows source after)
    {name : String} {model : Model} (found : start.models.get? name = some model) :
    after.models.get? name = some model := by
  obtain ⟨added, models⟩ := grows.exists_append
  rw [models, Entries.get?_append, found]
  rfl

/-- The keys of a registry come first in a grown one. -/
theorem Grows.keys_isPrefix {start after : ModelRegistry} (grows : start.Grows source after) :
    start.models.keys <+: after.models.keys := by
  obtain ⟨added, models⟩ := grows.exists_append
  exact ⟨added.keys, by simp [models, Entries.keys]⟩

/-- A model of a grown registry was there before, or it is flat and refers to nothing but
registered names and those of the source. -/
theorem Grows.get?_or_added {start after : ModelRegistry} (grows : start.Grows source after)
    {name : String} {model : Model} (found : after.models.get? name = some model) :
    start.models.get? name = some model ∨ model.Flat ∧ model.Sourced source after.models := by
  induction grows with
  | refl => exact Or.inl found
  | @add registry _ added _ addition flat sourced ih =>
      have later : ∀ target, source target ∨ target ∈ registry.models.keys →
          source target ∨ target ∈ Entries.keys (registry.models ++ [(added, addition)]) := by
        intro target
        apply Or.imp_right
        intro member
        simp only [Entries.keys, List.map_append]
        exact List.mem_append_left _ member
      rw [Entries.get?_append, Option.or_eq_some_iff] at found
      rcases found with old | ⟨_, new⟩
      · apply (ih old).imp_right
        rintro ⟨oldFlat, oldSourced⟩
        exact ⟨oldFlat, oldSourced.imp later⟩
      · have isAddition := Entries.mem_of_get? new
        simp only [List.mem_singleton, Prod.mk.injEq] at isAddition
        obtain ⟨_, rfl⟩ := isAddition
        exact Or.inr ⟨flat, sourced.imp later⟩

/-- Registering a flat model lets the registry grow, and the model is found under the
returned name. -/
theorem register_spec (registry : ModelRegistry) (name : String) {model : Model}
    (flat : model.Flat) (sourced : model.Sourced source registry.models) :
    registry.Grows source (registry.register name model).2 ∧
      ∃ existing, (registry.register name model).2.models.get?
          (registry.register name model).1 = some existing ∧ existing.bare = model.bare := by
  rcases registry.register_cases name model with
    ⟨chosen, existing, registered, found, equal⟩ | ⟨chosen, free, registered⟩
  · rw [registered]
    exact ⟨.refl, existing, found, equal⟩
  · rw [registered]
    refine ⟨Grows.refl.add free flat sourced, model, ?_, rfl⟩
    have absent := (Entries.get?_eq_none_iff _ _).mpr (not_mem_keys_of_isFree free)
    simp [Entries.get?_append, absent, Entries.get?]

end ApiScaffold.ModelRegistry
