import ApiScaffold.Service.Basic

/-!
# Structs that hold themselves

A field holds a struct if its model leads to the struct by references alone; arrays,
maps and iterators hold nothing, because their elements are kept elsewhere.  A struct
that holds itself, by way of other structs or not, would have no finite size.  The
fields on the way are therefore boxed.
-/

namespace ApiScaffold.RustCode

/-- The struct that a model leads to by at most `steps` references. -/
def heldWithin (service : Service) : Nat → Model → Outcome (Option String)
  | steps, model =>
      if !model.isReference then .ok none
      else
        match steps with
        | 0 => .error (.fault .tooDeep)
        | steps + 1 => do
            let target ← service.model model.name
            if target.isStruct then pure model.name else heldWithin service steps target
termination_by structural steps => steps

/-- The struct that a field of a model holds. -/
def heldStruct (service : Service) (model : Model) : Outcome (Option String) :=
  heldWithin service (service.models.length + 1) model

/-- The structs that a named struct holds, in the order of its properties. -/
def heldStructs (service : Service) (name : String) : Outcome (List String) := do
  let model ← service.model (some name)
  let held ← model.properties.mapM fun property => heldStruct service property.2
  pure (held.filterMap id)

/-- Whether a search reaches the owner.  The struct that was found last is looked at
first, and no struct is looked at twice; `rounds` bounds the structs that are taken
up. -/
def reaches (service : Service) (owner : String) : Nat → List String → List String → Outcome Bool
  | _, _, [] => .ok false
  | 0, _, _ => .ok false
  | rounds + 1, seen, name :: pending =>
      if name = owner then .ok true
      else if seen.contains name then reaches service owner rounds seen pending
      else do
        let held ← heldStructs service name
        reaches service owner rounds (name :: seen) (held.reverse ++ pending)

/-- The number of properties of all models.  Each is followed at most once. -/
def propertyCount (service : Service) : Nat :=
  service.models.foldl (fun total entry => total + entry.2.properties.length) 0

/-- Whether a field of a struct leads back to the struct. -/
def isRecursive (service : Service) (owner : String) (model : Model) : Outcome Bool := do
  match ← heldStruct service model with
  | none => pure false
  | some start => reaches service owner (propertyCount service + 1) [] [start]

end ApiScaffold.RustCode
