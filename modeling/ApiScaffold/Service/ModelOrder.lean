import ApiScaffold.Collection.DependencyGraph
import ApiScaffold.Model.Basic

/-!
# The order of models

A model comes after the models that it refers to directly.  Structs are known by
their names, so they may refer to each other in a circle, and then the order is as
good as it can be.  Any other model is written out wherever it is referred to, so it
must not lead back to itself through models that are no structs.
-/

namespace ApiScaffold

/-- The models that a model which is no struct is written out with. -/
def expansionTargets (models : Entries String Model) (model : Model) : List String :=
  model.references.filterMap fun target? =>
    match target? with
    | none => none
    | some target =>
        match models.get? target with
        | some other => if other.isStruct then none else some target
        | none => none

/-- Which models are written out inside which others. -/
def expansionGraph (models : Entries String Model) : DependencyGraph String :=
  models.foldl (fun graph entry =>
    if entry.2.isStruct then graph
    else
      (expansionTargets models entry.2).foldl (fun graph target => graph.addEdge entry.1 target)
        (graph.addNode entry.1)) .empty

/-- Which models refer to which others directly. -/
def referenceGraph (models : Entries String Model) : DependencyGraph (Option String) :=
  models.foldl (fun graph entry =>
    entry.2.directReferences.foldl (fun graph target => graph.addEdge (some entry.1) target)
      (graph.addNode (some entry.1))) .empty

/-- The names of models, dependencies first. -/
def orderModels (models : Entries String Model) : Outcome (List (Option String)) := do
  match (expansionGraph models).sort .reject with
  | .error path => throw (.cycle (path.map some))
  | .ok _ => pure ()
  match (referenceGraph models).sort .skip with
  | .error path => throw (.cycle path)
  | .ok order => pure order

end ApiScaffold
