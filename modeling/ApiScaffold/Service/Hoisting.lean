import ApiScaffold.Model.Basic
import ApiScaffold.Naming.TypeName

/-!
# Names for nested structs

Only named structs can be written as definitions.  Hoisting replaces a struct inside
another model by a reference and registers the struct under a name made of the names
on the way to it.

A name that is free is used as it is.  So is the name of the very same struct.
Otherwise a number is added to the name, the least that makes it usable.  A name is
free if no model has it and its type name neither belongs to a model nor is
reserved.
-/

namespace ApiScaffold

/-- The models that have names, and type names that no model may take. -/
structure ModelRegistry where
  models : Entries String Model
  /-- Type names that are used otherwise. -/
  reserved : List String

namespace ModelRegistry

/-- The type names of all models. -/
def typeNames (registry : ModelRegistry) : List String :=
  registry.models.keys.map Naming.typeName

/-- Whether a name can be given to a new model. -/
def isFree (registry : ModelRegistry) (name : String) : Bool :=
  !registry.models.hasKey name && !registry.typeNames.contains (Naming.typeName name) &&
    !registry.reserved.contains (Naming.typeName name)

/-- Whether a name belongs to this very model. -/
def holds (registry : ModelRegistry) (name : String) (model : Model) : Bool :=
  match registry.models.get? name with
  | some existing => existing.same model
  | none => false

/-- The names that are tried for a model: the name itself, then with the numbers from
two on. -/
def candidate (name : String) : Nat → String
  | 0 => name
  | count + 1 => name ++ toString (count + 2)

/-- How many names are tried.  Each name in use and each reserved name can rule out
only one of them. -/
def attempts (registry : ModelRegistry) : Nat :=
  registry.models.length + registry.reserved.length + 1

/-- The name under which a model is registered. -/
def nameFor (registry : ModelRegistry) (name : String) (model : Model) : String :=
  let names := (List.range registry.attempts).map (candidate name)
  (names.find? fun name => registry.holds name model || registry.isFree name).getD name

/-- Register a model under a name like the given one, and return the name. -/
def register (registry : ModelRegistry) (name : String) (model : Model) :
    String × ModelRegistry :=
  let chosen := registry.nameFor name model
  if registry.holds chosen model then (chosen, registry)
  else (chosen, { registry with models := registry.models.put chosen model })

end ModelRegistry

/-- A step that may register models. -/
abbrev Hoist (α : Type) := StateM ModelRegistry α

/-- Register a model. -/
def registerModel (name : String) (model : Model) : Hoist String :=
  modifyGet fun registry => registry.register name model

namespace Model

mutual

/-- Replace a struct by a reference, or the structs inside of another model. -/
def hoist : Model → String → Hoist Model
  | ⟨kind, element, properties, name, description⟩, owner =>
      if kind = .struct then do
        let properties ← hoistEach properties owner
        let registered ← registerModel owner ⟨kind, element, properties, name, description⟩
        pure (reference registered)
      else do
        let element ← hoistElement element (owner ++ "Item")
        pure ⟨kind, element, properties, name, description⟩
termination_by structural model => model

/-- Hoist an element. -/
def hoistElement : Option Model → String → Hoist (Option Model)
  | none, _ => pure none
  | some element, owner => do
      pure (some (← hoist element owner))
termination_by structural element => element

/-- Hoist each of the properties. -/
def hoistEach : List (String × Model) → String → Hoist (List (String × Model))
  | [], _ => pure []
  | (name, property) :: rest, owner => do
      let property ← hoist property (owner ++ Naming.typeName name)
      pure ((name, property) :: (← hoistEach rest owner))
termination_by structural properties => properties

end

/-- Hoist what a struct contains and leave the struct where it is. -/
def hoistProperties (model : Model) (owner : String) : Hoist Model := do
  pure { model with properties := (← hoistEach model.properties owner) }

/-- Hoist what is nested in a model that has a name, or that is flattened. -/
def hoistNested (model : Model) (owner : String) : Hoist Model :=
  if model.isStruct then model.hoistProperties owner else model.hoist owner

end Model

end ApiScaffold
