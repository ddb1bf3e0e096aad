import ApiScaffold.Proofs.Collection.StrictOrder
import Mathlib.Data.List.Chain
import Mathlib.Logic.Relation

/-!
# Cycles of dependencies

If cycles are rejected, a graph has an order exactly if it has no cycle, and what is reported
otherwise is a closed walk: it follows the edges of the graph and ends at a node that it came
through before.

The path of a visit is such a walk at every moment, because each pending node is a dependency
of the last node of the path.
-/

namespace ApiScaffold.DependencyGraph

universe u

variable {α : Type u} [DecidableEq α]

/-- Whether a node depends on another one. -/
def Depends (graph : DependencyGraph α) (name dependency : α) : Prop :=
  dependency ∈ graph.dependencies name

/-- A walk along a relation that ends at a node it came through before. -/
structure ClosedWalk (related : α → α → Prop) (path : List α) : Prop where
  follows : path.IsChain related
  returns : ∃ walked last, path = walked ++ [last] ∧ last ∈ walked

omit [DecidableEq α] in
/-- From each node of a walk its last node is reached. -/
theorem reaches_last_of_isChain {related : α → α → Prop} {walked : List α} {last : α}
    (follows : (walked ++ [last]).IsChain related) :
    ∀ name ∈ walked, Relation.TransGen related name last := by
  induction walked with
  | nil => simp
  | cons first rest ih =>
      have step : ∀ next ∈ (rest ++ [last]).head?, related first next :=
        (List.isChain_cons.mp follows).1
      have later := ih (List.isChain_cons.mp follows).2
      intro name member
      rcases List.mem_cons.mp member with rfl | inRest
      · cases rest with
        | nil => exact .single (step last rfl)
        | cons next others =>
            exact .head (step next rfl) (later next List.mem_cons_self)
      · exact later name inRest

omit [DecidableEq α] in
/-- A closed walk goes around a cycle. -/
theorem ClosedWalk.exists_cycle {related : α → α → Prop} {path : List α}
    (closed : ClosedWalk related path) : ∃ name, Relation.TransGen related name name := by
  obtain ⟨walked, last, rfl, again⟩ := closed.returns
  exact ⟨last, reaches_last_of_isChain closed.follows last again⟩

/-- Rejecting cycles, a visit fails with a closed walk, if its path is a walk that leads to
what is pending. -/
theorem closedWalk_of_visit {graph : DependencyGraph α} {path pending cycle : List α}
    {listed : OrderedSet α} (failed : graph.visit .reject path pending listed = .error cycle)
    (leads : ∀ name ∈ pending, (path ++ [name]).IsChain graph.Depends) :
    ClosedWalk graph.Depends cycle := by
  fun_induction DependencyGraph.visit graph .reject path pending listed with
  | case1 => cases failed
  | case2 path name rest listed known ih =>
      exact ih failed fun other member => leads other (List.mem_cons_of_mem _ member)
  | case3 path name rest listed unknown onPath =>
      cases failed
      exact ⟨leads name List.mem_cons_self, path, name, rfl, onPath⟩
  | case4 => contradiction
  | case5 path name rest listed unknown offPath inner failedInner ih =>
      cases failed
      apply ih failedInner
      intro dependency depends
      rw [List.isChain_append]
      refine ⟨leads name List.mem_cons_self, .singleton _, ?_⟩
      simpa [Depends] using depends
  | case6 path name rest listed unknown offPath extended inner ihInner ihRest =>
      exact ihRest failed fun other member => leads other (List.mem_cons_of_mem _ member)

/-- Rejecting cycles, what is reported of a graph is a closed walk. -/
theorem closedWalk_of_sort {graph : DependencyGraph α} {cycle : List α}
    (failed : graph.sort .reject = .error cycle) : ClosedWalk graph.Depends cycle := by
  cases visited : graph.visit .reject [] graph.nodes .empty with
  | error found =>
      rw [sort, visited] at failed
      cases failed
      exact closedWalk_of_visit visited fun _ _ => .singleton _
  | ok result =>
      rw [sort, visited] at failed
      cases failed

/-- In a list with dependencies first, whatever a node reaches stands at a lower position. -/
theorem DependenciesFirst.idxOf_lt_of_transGen {graph : DependencyGraph α} {listed : List α}
    (ordered : graph.DependenciesFirst listed) {name reached : α} (member : name ∈ listed)
    (reaches : Relation.TransGen graph.Depends name reached) :
    listed.idxOf reached < listed.idxOf name := by
  induction reaches using Relation.TransGen.head_induction_on with
  | single depends => exact ordered.idxOf_lt member depends
  | head depends _ ih =>
      have inOrder := ordered.mem member depends
      exact Nat.lt_trans (ih inOrder) (ordered.idxOf_lt member depends)

/-- A graph with a cycle has no order. -/
theorem exists_error_of_cycle {graph : DependencyGraph α} {name : α}
    (cycle : Relation.TransGen graph.Depends name name) :
    ∃ path, graph.sort .reject = .error path := by
  cases sorted : graph.sort .reject with
  | error path => exact ⟨path, rfl⟩
  | ok order =>
      obtain ⟨ordered, complete⟩ := sort_reject_spec sorted
      obtain ⟨dependency, depends, _⟩ := Relation.TransGen.head'_iff.mp cycle
      have isNode : name ∈ graph.nodes := by
        by_contra foreign
        rw [Depends, dependencies_eq_nil graph foreign] at depends
        cases depends
      exact absurd (ordered.idxOf_lt_of_transGen (complete name isNode) cycle) (Nat.lt_irrefl _)

end ApiScaffold.DependencyGraph
