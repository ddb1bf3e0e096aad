import ApiScaffold.Proofs.Service.Registration
import Mathlib.Data.Finset.Lattice.Lemmas
import Mathlib.Data.Nat.Find

/-!
# The search for a name

The name of a new model is searched for without a bound: the name itself is tried, then the name
with the numbers from two on, until one can be taken.  A `TrackedRegistry` keeps the type names of
its models in a set, which the search consults and the registration of a model extends.

The search always ends, because the names that are tried have different type names and only
finitely many are in use.  It ends at the least number that will do, which is the name that
`ModelRegistry.register` finds among a bounded number of candidates.
-/

namespace ApiScaffold

/-! ## Loops -/

/-- Rounds are made from a number on, until one of them has a result. -/
inductive LoopsTo {α : Type} (round : Nat → Option α) : Nat → α → Prop
  | stop {count : Nat} {result : α} (here : round count = some result) : LoopsTo round count result
  | again {count : Nat} {result : α} (nothing : round count = none)
      (later : LoopsTo round (count + 1) result) : LoopsTo round count result

namespace LoopsTo

variable {α : Type} {round : Nat → Option α} {start : Nat}

/-- A loop has one result only. -/
theorem unique {first second : α} (isFirst : LoopsTo round start first)
    (isSecond : LoopsTo round start second) : first = second := by
  induction isFirst with
  | stop here =>
      cases isSecond with
      | stop other => exact Option.some.inj (here.symm.trans other)
      | again nothing => cases here.symm.trans nothing
  | again nothing _ ih =>
      cases isSecond with
      | stop other => cases nothing.symm.trans other
      | again _ later => exact ih later

/-- A loop ends in the first round that has a result. -/
theorem of_first {result : α} (rounds : Nat) (found : round (start + rounds) = some result)
    (before : ∀ earlier < rounds, round (start + earlier) = none) :
    LoopsTo round start result := by
  induction rounds generalizing start with
  | zero => exact .stop found
  | succ rounds ih =>
      refine .again (before 0 rounds.succ_pos) (ih ?_ fun earlier inRange => ?_)
      · rwa [Nat.add_assoc, Nat.add_comm 1]
      · rw [Nat.add_assoc, Nat.add_comm 1]
        exact before (earlier + 1) (Nat.succ_lt_succ inRange)

end LoopsTo

/-! ## Names that can be taken -/

namespace ModelRegistry

/-- Whether a model can be registered under exactly this name. -/
def accepts (registry : ModelRegistry) (model : Model) (name : String) : Bool :=
  registry.holds name model || registry.isFree name

/-- The name under which a model is registered is the first that can be taken. -/
theorem exists_nameFor (registry : ModelRegistry) (name : String) (model : Model) :
    ∃ count, registry.nameFor name model = candidate name count ∧
      registry.accepts model (candidate name count) = true ∧
      ∀ earlier < count, registry.accepts model (candidate name earlier) = false := by
  obtain ⟨free, inRange, isFree⟩ := registry.exists_isFree name
  have accepted : ∃ count, registry.accepts model (candidate name count) = true :=
    ⟨free, by rw [accepts, isFree, Bool.or_true]⟩
  have least : ∀ earlier < Nat.find accepted,
      registry.accepts model (candidate name earlier) = false := fun earlier isEarlier =>
    Bool.eq_false_iff.mpr (Nat.find_min accepted isEarlier)
  have inTried : Nat.find accepted < registry.attempts :=
    (Nat.find_min' accepted (by rw [accepts, isFree, Bool.or_true])).trans_lt inRange
  refine ⟨Nat.find accepted, ?_, Nat.find_spec accepted, least⟩
  have found : (List.range registry.attempts).find?
      ((fun name => registry.accepts model name) ∘ candidate name) = some (Nat.find accepted) := by
    rw [List.find?_range_eq_some]
    refine ⟨Nat.find_spec accepted, List.mem_range.mpr inTried, fun earlier isEarlier => ?_⟩
    rw [Function.comp_apply, least earlier isEarlier]
    rfl
  change (((List.range registry.attempts).map (candidate name)).find? fun name =>
    registry.accepts model name).getD name = _
  rw [List.find?_map, found]
  rfl

end ModelRegistry

/-! ## The search -/

/-- A registry that keeps the type names of its models at hand. -/
structure TrackedRegistry extends ModelRegistry where
  /-- The type names that are in use. -/
  inUse : Finset String

namespace TrackedRegistry

open ModelRegistry (candidate)

/-- The set holds the type names of the models, and no others. -/
def IsExact (registry : TrackedRegistry) : Prop :=
  registry.inUse = registry.typeNames.toFinset

/-- A registry with the type names of its models. -/
def ofRegistry (registry : ModelRegistry) : TrackedRegistry :=
  { registry with inUse := registry.typeNames.toFinset }

/-- Add a model. -/
def add (registry : TrackedRegistry) (name : String) (model : Model) : TrackedRegistry :=
  { registry with
    models := registry.models.put name model
    inUse := insert (Naming.typeName name) registry.inUse }

/-- Register a model under exactly this name, if that can be done. -/
def tryName (registry : TrackedRegistry) (model : Model) (name : String) :
    Option (String × TrackedRegistry) :=
  match registry.models.get? name with
  | some existing => if existing.same model then some (name, registry) else none
  | none =>
      if Naming.typeName name ∈ registry.inUse ∨ Naming.typeName name ∈ registry.reserved then none
      else some (name, registry.add name model)

variable {registry : TrackedRegistry}

/-- A name that can be taken is taken, and no other. -/
theorem tryName_eq (exact : registry.IsExact) (model : Model) (name : String) :
    registry.tryName model name =
      if registry.holds name model then some (name, registry)
      else if registry.isFree name then some (name, registry.add name model)
      else none := by
  have isFree := registry.isFree_iff name
  rw [← List.mem_toFinset, ← exact, ← not_or] at isFree
  unfold tryName ModelRegistry.holds
  cases found : registry.models.get? name with
  | some existing =>
      have noFree : registry.isFree name = false := by
        rw [← Bool.not_eq_true]
        intro free
        exact ModelRegistry.not_mem_keys_of_isFree free (Entries.mem_keys_iff.mpr ⟨_, found⟩)
      simp [noFree]
  | none => by_cases free : registry.isFree name = true <;> simp_all

/-- A name that cannot be taken is passed over. -/
theorem tryName_eq_none (exact : registry.IsExact) {model : Model} {name : String}
    (refused : registry.accepts model name = false) : registry.tryName model name = none := by
  obtain ⟨noHolder, noFree⟩ := Bool.or_eq_false_iff.mp refused
  rw [tryName_eq exact, noHolder, noFree]
  rfl

/-- The set of type names stays exact if a model gets a new name. -/
theorem IsExact.add (exact : registry.IsExact) {name : String}
    (absent : name ∉ registry.models.keys) (model : Model) : (registry.add name model).IsExact := by
  have typeNames : (registry.add name model).typeNames =
      registry.typeNames ++ [Naming.typeName name] := by
    change (registry.models.put name model).keys.map Naming.typeName = _
    rw [Entries.keys_put, if_neg absent, List.map_append]
    rfl
  unfold IsExact
  rw [typeNames, List.toFinset_append, ← exact, TrackedRegistry.add, Finset.union_comm]
  rfl

/-- What the registration of a model returns and leaves behind. -/
structure Registers (registry : TrackedRegistry) (name : String) (model : Model) (chosen : String)
    (after : TrackedRegistry) : Prop where
  /-- The model is found under the returned name. -/
  found : ∃ stored, after.models.get? chosen = some stored ∧ stored.same model = true
  /-- The name was there and nothing changes, or one model is added under a new name, with a type
  name that no model has and that is not reserved. -/
  change : (chosen ∈ registry.models.keys ∧ after = registry) ∨
    (chosen ∉ registry.models.keys ∧
      (∀ other ∈ registry.models.keys, Naming.typeName chosen ≠ Naming.typeName other) ∧
      Naming.typeName chosen ∉ registry.reserved ∧
      after.models = registry.models ++ [(chosen, model)] ∧ after.reserved = registry.reserved)
  exact : after.IsExact
  /-- The name is the given one, or it has the least number for which this can be done. -/
  least : chosen = name ∨ ∃ number ≥ 2, chosen = name ++ toString number ∧
    registry.accepts model name = false ∧
    ∀ smaller, 2 ≤ smaller → smaller < number →
      registry.accepts model (name ++ toString smaller) = false

/-- A name that is the first to be accepted has the least number. -/
theorem least_of_candidate {name : String} {model : Model} {count : Nat}
    (before : ∀ earlier < count, registry.accepts model (candidate name earlier) = false) :
    candidate name count = name ∨ ∃ number ≥ 2, candidate name count = name ++ toString number ∧
      registry.accepts model name = false ∧
      ∀ smaller, 2 ≤ smaller → smaller < number →
        registry.accepts model (name ++ toString smaller) = false := by
  cases count with
  | zero => exact Or.inl rfl
  | succ count =>
      refine Or.inr ⟨count + 2, Nat.le_add_left 2 count, rfl, before 0 count.succ_pos, ?_⟩
      intro smaller atLeast isSmaller
      obtain ⟨rest, rfl⟩ := Nat.exists_eq_add_of_le' atLeast
      exact before (rest + 1) (by omega)

/-- The round that accepts a name registers the model. -/
theorem exists_registers (exact : registry.IsExact) {name : String} {model : Model} {count : Nat}
    (accepted : registry.accepts model (candidate name count) = true)
    (before : ∀ earlier < count, registry.accepts model (candidate name earlier) = false) :
    ∃ after, registry.tryName model (candidate name count) = some (candidate name count, after) ∧
      registry.Registers name model (candidate name count) after ∧
      after.toModelRegistry =
        if registry.holds (candidate name count) model then registry.toModelRegistry
        else { registry.toModelRegistry with
          models := registry.models.put (candidate name count) model } := by
  have least := least_of_candidate before
  rw [tryName_eq exact]
  generalize candidate name count = chosen at accepted least ⊢
  by_cases held : registry.holds chosen model = true
  · obtain ⟨stored, isStored, equal⟩ := (ModelRegistry.holds_iff _ _ _).mp held
    refine ⟨registry, if_pos held, ⟨?_, ?_, exact, least⟩, (if_pos held).symm⟩
    · exact ⟨stored, isStored, (Model.same_iff_bare_eq _ _).mpr equal⟩
    · exact Or.inl ⟨Entries.mem_keys_iff.mpr ⟨stored, isStored⟩, rfl⟩
  · have free : registry.isFree chosen = true := by
      rw [ModelRegistry.accepts, Bool.or_eq_true] at accepted
      exact accepted.resolve_left held
    have absent := ModelRegistry.not_mem_keys_of_isFree free
    obtain ⟨unused, unreserved⟩ := (registry.isFree_iff chosen).mp free
    refine ⟨registry.add chosen model, by rw [if_neg held, if_pos free],
      ⟨?_, ?_, exact.add absent model, least⟩, by rw [if_neg held]; rfl⟩
    · exact ⟨model, Entries.get?_put_self _ _ _, (Model.same_iff_bare_eq _ _).mpr rfl⟩
    · refine Or.inr ⟨absent, ?_, unreserved, Entries.put_eq_append model absent, rfl⟩
      intro other isKey equal
      exact unused (equal ▸ List.mem_map_of_mem isKey)

/-- The search for a name ends, whatever models there are and whatever names are reserved, and
with one result only.  The model is registered under the least name that can be taken, and this is
the registration that the bounded choice of a name makes. -/
theorem search_registers (registry : TrackedRegistry) (exact : registry.IsExact) (name : String)
    (model : Model) :
    ∃ chosen after,
      (∀ outcome, LoopsTo (fun count => registry.tryName model (candidate name count)) 0 outcome ↔
        outcome = (chosen, after)) ∧
      registry.register name model = (chosen, after.toModelRegistry) ∧
      registry.Registers name model chosen after := by
  obtain ⟨count, isName, accepted, before⟩ := registry.exists_nameFor name model
  obtain ⟨after, tried, registers, isAfter⟩ := exists_registers exact accepted before
  refine ⟨candidate name count, after, fun outcome => ?_, ?_, registers⟩
  · have ends : LoopsTo (fun count => registry.tryName model (candidate name count)) 0
        (candidate name count, after) := by
      refine .of_first count (by rwa [Nat.zero_add]) fun earlier isEarlier => ?_
      rw [Nat.zero_add]
      exact tryName_eq_none exact (before earlier isEarlier)
    exact ⟨fun ended => ended.unique ends, fun isOutcome => isOutcome ▸ ends⟩
  · rw [ModelRegistry.register, isName, isAfter]
    split <;> rfl

/-- Models of which one has the name of the owner of a widget.  The next such name is reserved. -/
def widgetOwners : TrackedRegistry :=
  .ofRegistry ⟨[("Widget", .struct [("id", .ofKind .string none)] none),
    ("widget-owner", .struct [("name", .ofKind .string none)] none)], ["WidgetOwner2"]⟩

theorem search_registers_of_widgetOwners :
    widgetOwners.IsExact ∧ ∃ after,
      LoopsTo
        (fun count => widgetOwners.tryName (.struct [] none) (candidate "WidgetOwner" count)) 0
        ("WidgetOwner3", after) ∧
      after.models.keys = ["Widget", "widget-owner", "WidgetOwner3"] := by
  obtain ⟨chosen, after, ends, registered, _⟩ :=
    search_registers widgetOwners rfl "WidgetOwner" (.struct [] none)
  have computed : (widgetOwners.register "WidgetOwner" (.struct [] none)).1 = "WidgetOwner3" ∧
      (widgetOwners.register "WidgetOwner" (.struct [] none)).2.models.keys =
        ["Widget", "widget-owner", "WidgetOwner3"] := by
    decide +kernel
  rw [registered] at computed
  obtain ⟨rfl, keys⟩ := computed
  exact ⟨rfl, after, (ends _).mpr rfl, keys⟩

end TrackedRegistry

end ApiScaffold
