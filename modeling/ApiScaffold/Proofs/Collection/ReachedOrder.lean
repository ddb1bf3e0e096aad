import ApiScaffold.Proofs.Collection.BuiltGraph
import ApiScaffold.Proofs.Collection.LenientOrder
import Mathlib.Data.List.Nodup

/-!
# Orders of what a node reaches

The order from a node lists exactly what the node reaches, each name once and the node itself at
the end.  If cycles are rejected, everything comes after its dependencies, and there is an order
exactly if no cycle is reached.  What is reported otherwise is the walk from the node to the
first name that it meets twice.  If cycles are skipped, there always is an order; a name comes
after its dependencies unless they lead back to it, and without cycles it is the same order.

The order of a whole graph is the same for all nodes at once.

A name on the path of a visit is not listed by that visit.  This is why the node where an order
starts is the last one that is listed.
-/

namespace ApiScaffold.DependencyGraph

open Relation

universe u

variable {α : Type u} [DecidableEq α]

/-! ## Visits -/

/-- A new name is entered, and listed after its dependencies. -/
theorem visit_cons_of_new (graph : DependencyGraph α) (policy : CyclePolicy) {path : List α}
    {name : α} (rest : List α) {listed : OrderedSet α} (unknown : name ∉ listed.items)
    (offPath : name ∉ path) :
    graph.visit policy path (name :: rest) listed =
      (graph.visit policy (path ++ [name]) (graph.dependencies name) listed).bind
        fun extended => graph.visit policy path rest (extended.insert name) := by
  have notListed : ¬ listed.contains name = true := by simpa using unknown
  cases policy <;>
  · rw [visit, if_neg notListed, if_neg offPath]
    split <;> simp_all [Except.bind]

/-- A visit does not list the names on its path. -/
theorem mem_of_visit_of_mem_path {graph : DependencyGraph α} {policy : CyclePolicy}
    {path pending : List α} {listed result : OrderedSet α}
    (visited : graph.visit policy path pending listed = .ok result) {name : α}
    (onPath : name ∈ path) (member : name ∈ result.items) : name ∈ listed.items := by
  fun_induction DependencyGraph.visit graph policy path pending listed generalizing result with
  | case1 =>
      cases visited
      exact member
  | case2 path next rest listed known ih => exact ih visited onPath member
  | case3 => cases visited
  | case4 path next rest listed unknown nextOnPath isSkip ih =>
      subst isSkip
      exact ih visited onPath member
  | case5 => cases visited
  | case6 path next rest listed unknown offPath extended inner ihInner ihRest =>
      rcases (OrderedSet.mem_items_insert _ _ _).mp (ihRest visited onPath member) with
        inExtended | rfl
      · exact ihInner inner (List.mem_append_left _ onPath) inExtended
      · exact absurd onPath offPath

/-- A visit that meets no cycle does not depend on what is done about cycles. -/
theorem visit_skip_of_reject {graph : DependencyGraph α} {path pending : List α}
    {listed result : OrderedSet α}
    (visited : graph.visit .reject path pending listed = .ok result) :
    graph.visit .skip path pending listed = .ok result := by
  fun_induction DependencyGraph.visit graph .reject path pending listed generalizing result with
  | case1 =>
      cases visited
      exact visit_nil _ _ _ _
  | case2 path next rest listed known ih =>
      rw [visit, if_pos known]
      exact ih visited
  | case3 => cases visited
  | case4 => contradiction
  | case5 => cases visited
  | case6 path next rest listed unknown offPath extended inner ihInner ihRest =>
      have notListed : next ∉ listed.items := by simpa using unknown
      rw [visit_cons_of_new graph .skip rest notListed offPath, ihInner inner]
      exact ihRest visited

/-- A cycle is reported as the path on which it was met: it goes on from the path of the visit
to a pending name, and no name but the last one occurs twice. -/
theorem cycle_of_visit {graph : DependencyGraph α} {path pending cycle : List α}
    {listed : OrderedSet α} (failed : graph.visit .reject path pending listed = .error cycle)
    (distinct : path.Nodup) :
    cycle.dropLast.Nodup ∧ ∃ name ∈ pending, path ++ [name] <+: cycle := by
  fun_induction DependencyGraph.visit graph .reject path pending listed with
  | case1 => cases failed
  | case2 path next rest listed known ih =>
      obtain ⟨once, name, member, begins⟩ := ih failed distinct
      exact ⟨once, name, List.mem_cons_of_mem next member, begins⟩
  | case3 path next rest listed unknown onPath =>
      cases failed
      exact ⟨by simpa using distinct, next, List.mem_cons_self, List.prefix_refl _⟩
  | case4 => contradiction
  | case5 path next rest listed unknown offPath inner failedInner ih =>
      cases failed
      have distinctInner : (path ++ [next]).Nodup := by
        simpa using List.Nodup.concat offPath distinct
      obtain ⟨once, dependency, _, begins⟩ := ih failedInner distinctInner
      exact ⟨once, next, List.mem_cons_self, (List.prefix_append _ _).trans begins⟩
  | case6 path next rest listed unknown offPath extended inner ihInner ihRest =>
      obtain ⟨once, name, member, begins⟩ := ihRest failed distinct
      exact ⟨once, name, List.mem_cons_of_mem next member, begins⟩

/-! ## The order from a node -/

/-- The order from a node is that of its dependencies, and the node. -/
theorem sortFrom_eq (graph : DependencyGraph α) (policy : CyclePolicy) (start : α) :
    graph.sortFrom policy start =
      (graph.visit policy [start] (graph.dependencies start) .empty).map
        fun listed => listed.items ++ [start] := by
  rw [sortFrom, visit_cons_of_new graph policy [] (by simp) (by simp), List.nil_append]
  cases visited : graph.visit policy [start] (graph.dependencies start) .empty with
  | error cycle => rfl
  | ok listed =>
      have absent : start ∉ listed.items := fun member =>
        absurd (mem_of_visit_of_mem_path visited List.mem_cons_self member) (by simp)
      simp [Except.bind, visit_nil, Except.map, OrderedSet.items_insert, absent]

omit [DecidableEq α] in
theorem map_items_eq_ok_iff {visited : Except (List α) (OrderedSet α)} {order : List α} :
    visited.map OrderedSet.items = .ok order ↔
      ∃ result, visited = .ok result ∧ result.items = order := by
  cases visited <;> simp [Except.map]

omit [DecidableEq α] in
theorem map_items_eq_error_iff {visited : Except (List α) (OrderedSet α)} {cycle : List α} :
    visited.map OrderedSet.items = .error cycle ↔ visited = .error cycle := by
  cases visited <;> simp [Except.map]

/-- If cycles are skipped, there is an order from every node. -/
theorem exists_sortFrom_skip (graph : DependencyGraph α) (start : α) :
    ∃ order, graph.sortFrom .skip start = .ok order ∧ order.Nodup ∧
      (∀ name, name ∈ order ↔ ReflTransGen graph.Depends start name) ∧
        order.getLast? = some start ∧ graph.CompletedFirst order := by
  obtain ⟨result, visited⟩ := graph.visit_skip_isOk [] [start] .empty
  have sorted : graph.sortFrom .skip start = .ok result.items :=
    map_items_eq_ok_iff.mpr ⟨result, visited, rfl⟩
  obtain ⟨completed, _, complete⟩ := visit_skip_spec visited (by simp)
    ⟨.nil, fun _ member => absurd member (by simp)⟩
  have isListed : start ∈ result.items :=
    (complete start List.mem_cons_self).resolve_right (by simp)
  refine ⟨result.items, sorted, result.nodup, ?_, ?_, completed.ordered⟩
  · intro name
    constructor
    · exact forall_mem_of_visit visited (fun known reaches _ depends => reaches.tail depends)
        (by simp) (by simp [ReflTransGen.refl]) name
    · intro reaches
      exact (completed.closed.reached isListed reaches).resolve_right (by simp)
  · rw [sortFrom_eq] at sorted
    cases inner : graph.visit .skip [start] (graph.dependencies start) .empty with
    | error cycle => simp [inner, Except.map] at sorted
    | ok listed =>
        have isOrder : listed.items ++ [start] = result.items := by
          simpa [inner, Except.map] using sorted
        simp [← isOrder]

/-- An order that rejects cycles is the one that skips them. -/
theorem sortFrom_skip_of_reject {graph : DependencyGraph α} {start : α} {order : List α}
    (sorted : graph.sortFrom .reject start = .ok order) :
    graph.sortFrom .skip start = .ok order := by
  obtain ⟨result, visited, isOrder⟩ := map_items_eq_ok_iff.mp sorted
  exact map_items_eq_ok_iff.mpr ⟨result, visit_skip_of_reject visited, isOrder⟩

theorem sort_skip_of_reject {graph : DependencyGraph α} {order : List α}
    (sorted : graph.sort .reject = .ok order) : graph.sort .skip = .ok order := by
  obtain ⟨result, visited, isOrder⟩ := map_items_eq_ok_iff.mp sorted
  exact map_items_eq_ok_iff.mpr ⟨result, visit_skip_of_reject visited, isOrder⟩

/-- An order that rejects cycles lists dependencies first. -/
theorem dependenciesFirst_of_sortFrom {graph : DependencyGraph α} {start : α} {order : List α}
    (sorted : graph.sortFrom .reject start = .ok order) : graph.DependenciesFirst order := by
  obtain ⟨result, visited, rfl⟩ := map_items_eq_ok_iff.mp sorted
  exact (visit_reject_spec visited .nil).1

/-- A name comes after its dependency, unless the dependency leads back to it. -/
theorem CompletedFirst.idxOf_lt_or_reaches {graph : DependencyGraph α} {order : List α}
    (ordered : graph.CompletedFirst order) {name dependency : α} (member : name ∈ order)
    (depends : graph.Depends name dependency) :
    order.idxOf dependency < order.idxOf name ∨ ReflTransGen graph.Depends dependency name := by
  by_cases back : ReflTransGen graph.Depends dependency name
  · exact Or.inr back
  · exact Or.inl (ordered.idxOf_lt member depends back .refl)

/-! ## Cycles that are reached -/

/-- A closed walk that meets no name twice before its end. -/
structure FirstReturn (related : α → α → Prop) (path : List α) : Prop
    extends ClosedWalk related path where
  nodup : path.dropLast.Nodup

omit [DecidableEq α] in
/-- From where a closed walk starts, a cycle is reached. -/
theorem ClosedWalk.exists_reached_cycle {related : α → α → Prop} {path : List α} {start : α}
    (closed : ClosedWalk related path) (starts : path.head? = some start) :
    ∃ name, ReflTransGen related start name ∧ TransGen related name name := by
  obtain ⟨walked, last, rfl, again⟩ := closed.returns
  have isWalked : start ∈ walked := by
    cases walked with
    | nil => cases again
    | cons first rest =>
        cases starts
        exact List.mem_cons_self
  have reaches := reaches_last_of_isChain closed.follows
  exact ⟨last, (reaches start isWalked).to_reflTransGen, reaches last again⟩

/-- Rejecting cycles, a visit from the start reports the walk from a pending name to the first
name that is met twice. -/
theorem firstReturn_of_visit {graph : DependencyGraph α} {pending cycle : List α}
    (failed : graph.visit .reject [] pending .empty = .error cycle) :
    FirstReturn graph.Depends cycle ∧ ∃ start ∈ pending, cycle.head? = some start := by
  obtain ⟨once, start, member, begins⟩ := cycle_of_visit failed List.nodup_nil
  have closed := closedWalk_of_visit failed fun _ _ => .singleton _
  obtain ⟨rest, rfl⟩ := begins
  exact ⟨⟨closed, once⟩, start, member, rfl⟩

theorem firstReturn_of_sortFrom {graph : DependencyGraph α} {start : α} {cycle : List α}
    (failed : graph.sortFrom .reject start = .error cycle) :
    FirstReturn graph.Depends cycle ∧ cycle.head? = some start := by
  obtain ⟨returns, first, member, starts⟩ :=
    firstReturn_of_visit (map_items_eq_error_iff.mp failed)
  rw [List.mem_singleton.mp member] at starts
  exact ⟨returns, starts⟩

/-- There is no order from a node that reaches a cycle. -/
theorem exists_error_of_reached_cycle {graph : DependencyGraph α} {start name : α}
    (reaches : ReflTransGen graph.Depends start name)
    (cycle : TransGen graph.Depends name name) :
    ∃ path, graph.sortFrom .reject start = .error path := by
  cases sorted : graph.sortFrom .reject start with
  | error path => exact ⟨path, rfl⟩
  | ok order =>
      obtain ⟨lenient, skipped, _, exact, _⟩ := graph.exists_sortFrom_skip start
      rw [sortFrom_skip_of_reject sorted] at skipped
      cases skipped
      have ordered := dependenciesFirst_of_sortFrom sorted
      exact absurd (ordered.idxOf_lt_of_transGen ((exact name).mpr reaches) cycle)
        (Nat.lt_irrefl _)

/-! ## Graphs that are built step by step -/

/-- Skipping cycles, all nodes of a graph have an order. -/
theorem exists_sort_ofAdditions (additions : List (Addition α)) :
    ∃ order, (ofAdditions additions).sort .skip = .ok order ∧
      order.Perm (ofAdditions additions).nodes ∧
        (ofAdditions additions).CompletedFirst order := by
  apply exists_sort_skip _ nodup_nodes_ofAdditions
  intro name dependency depends
  rw [depends_ofAdditions] at depends
  exact mem_nodes_of_adds depends

/-- Rejecting cycles, what a node of a graph reaches has an order exactly if no cycle is
reached.  The order lists each name that is reached once, after its dependencies, and the node
itself at the end; otherwise the walk to the first name that is met twice is reported.  So it is
with the order of all nodes. -/
theorem sort_reject_exact (additions : List (Addition α)) :
    (∀ start ∈ (ofAdditions additions).nodes,
      ((∃ path, (ofAdditions additions).sortFrom .reject start = .error path) ↔
          ∃ name, ReflTransGen (Adds additions) start name ∧ TransGen (Adds additions) name name) ∧
        (∀ path, (ofAdditions additions).sortFrom .reject start = .error path →
          path.head? = some start ∧ FirstReturn (Adds additions) path) ∧
        ∀ order, (ofAdditions additions).sortFrom .reject start = .ok order →
          order.Nodup ∧ (∀ name, name ∈ order ↔ ReflTransGen (Adds additions) start name) ∧
            order.getLast? = some start ∧ ∀ name ∈ order, ∀ dependency,
              Adds additions name dependency → order.idxOf dependency < order.idxOf name) ∧
    ((∃ path, (ofAdditions additions).sort .reject = .error path) ↔
      ∃ name, TransGen (Adds additions) name name) ∧
    (∀ path, (ofAdditions additions).sort .reject = .error path →
      FirstReturn (Adds additions) path ∧
        ∃ start ∈ (ofAdditions additions).nodes, path.head? = some start) ∧
    ∀ order, (ofAdditions additions).sort .reject = .ok order →
      order.Perm (ofAdditions additions).nodes ∧ ∀ name ∈ order, ∀ dependency,
        Adds additions name dependency → order.idxOf dependency < order.idxOf name := by
  obtain ⟨lenient, skipped, perm, _⟩ := exists_sort_ofAdditions additions
  rw [← depends_ofAdditions]
  refine ⟨?_, ?_, ?_, ?_⟩
  · intro start _
    refine ⟨⟨?_, ?_⟩, ?_, ?_⟩
    · rintro ⟨path, failed⟩
      obtain ⟨returns, starts⟩ := firstReturn_of_sortFrom failed
      exact returns.exists_reached_cycle starts
    · rintro ⟨name, reaches, cycle⟩
      exact exists_error_of_reached_cycle reaches cycle
    · intro path failed
      exact (firstReturn_of_sortFrom failed).symm
    · intro order sorted
      obtain ⟨same, skippedFrom, distinct, exact, last, _⟩ := exists_sortFrom_skip _ start
      rw [sortFrom_skip_of_reject sorted] at skippedFrom
      cases skippedFrom
      have ordered := dependenciesFirst_of_sortFrom sorted
      exact ⟨distinct, exact, last, fun name member dependency => ordered.idxOf_lt member⟩
  · constructor
    · rintro ⟨path, failed⟩
      exact (firstReturn_of_visit (map_items_eq_error_iff.mp failed)).1.exists_cycle
    · rintro ⟨name, cycle⟩
      exact exists_error_of_cycle cycle
  · intro path failed
    exact firstReturn_of_visit (map_items_eq_error_iff.mp failed)
  · intro order sorted
    rw [sort_skip_of_reject sorted] at skipped
    cases skipped
    exact ⟨perm, fun name member dependency => (sort_reject_spec sorted).1.idxOf_lt member⟩

/-- A diamond from `a` to `d`, and two names that depend on each other and on the diamond. -/
def diamondAndLoop : List (Addition String) :=
  [.edge "a" "b", .edge "a" "c", .edge "b" "d", .edge "c" "d", .edge "e" "a", .edge "e" "f",
    .edge "f" "e"]

theorem sortFrom_reject_diamond :
    (ofAdditions diamondAndLoop).sortFrom .reject "a" = .ok ["d", "b", "c", "a"] := by
  cbv

/-- The diamond has an order, and what is reported of the loop starts there. -/
theorem sort_reject_exact_of_diamond :
    ("a" ∈ (ofAdditions diamondAndLoop).nodes ∧ ∃ order,
      (ofAdditions diamondAndLoop).sortFrom .reject "a" = .ok order ∧
        order.getLast? = some "a" ∧ order.idxOf "d" < order.idxOf "b") ∧
    ("e" ∈ (ofAdditions diamondAndLoop).nodes ∧ ∃ path,
      (ofAdditions diamondAndLoop).sortFrom .reject "e" = .error path ∧
        path.head? = some "e") := by
  have isNode : "a" ∈ (ofAdditions diamondAndLoop).nodes := by decide +kernel
  have isNodeToo : "e" ∈ (ofAdditions diamondAndLoop).nodes := by decide +kernel
  refine ⟨⟨isNode, ?_⟩, isNodeToo, ?_⟩
  · obtain ⟨_, _, isOrder⟩ := (sort_reject_exact diamondAndLoop).1 "a" isNode
    obtain ⟨_, _, last, ordered⟩ := isOrder _ sortFrom_reject_diamond
    exact ⟨_, sortFrom_reject_diamond, last, ordered "b" (by decide) "d" (by decide)⟩
  · obtain ⟨isCycle, report, _⟩ := (sort_reject_exact diamondAndLoop).1 "e" isNodeToo
    have there : Adds diamondAndLoop "e" "f" := by decide
    have back : Adds diamondAndLoop "f" "e" := by decide
    obtain ⟨path, failed⟩ := isCycle.mpr ⟨"e", .refl, .tail (.single there) back⟩
    exact ⟨path, failed, (report path failed).1⟩

/-- Skipping cycles, what a node of a graph reaches always has an order.  It lists each name that
is reached once and the node itself at the end, and a name after its dependencies, unless they
lead back to it.  If cycles can be rejected, this is the same order.  So it is with the order of
all nodes. -/
theorem sort_skip_exact (additions : List (Addition α)) :
    (∀ start ∈ (ofAdditions additions).nodes, ∃ order,
      (ofAdditions additions).sortFrom .skip start = .ok order ∧ order.Nodup ∧
        (∀ name, name ∈ order ↔ ReflTransGen (Adds additions) start name) ∧
          order.getLast? = some start ∧
            (∀ name ∈ order, ∀ dependency, Adds additions name dependency →
              order.idxOf dependency < order.idxOf name ∨
                ReflTransGen (Adds additions) dependency name) ∧
              ∀ strict, (ofAdditions additions).sortFrom .reject start = .ok strict →
                strict = order) ∧
    ∃ order, (ofAdditions additions).sort .skip = .ok order ∧
      order.Perm (ofAdditions additions).nodes ∧
        (∀ name ∈ order, ∀ dependency, Adds additions name dependency →
          order.idxOf dependency < order.idxOf name ∨
            ReflTransGen (Adds additions) dependency name) ∧
          ∀ strict, (ofAdditions additions).sort .reject = .ok strict → strict = order := by
  obtain ⟨order, sorted, perm, ordered⟩ := exists_sort_ofAdditions additions
  rw [← depends_ofAdditions]
  constructor
  · intro start _
    obtain ⟨reached, sortedFrom, distinct, exact, last, inOrder⟩ :=
      exists_sortFrom_skip (ofAdditions additions) start
    refine ⟨reached, sortedFrom, distinct, exact, last, ?_, ?_⟩
    · exact fun name member dependency => inOrder.idxOf_lt_or_reaches member
    · intro strict rejected
      rw [sortFrom_skip_of_reject rejected] at sortedFrom
      exact Except.ok.inj sortedFrom
  · refine ⟨order, sorted, perm, ?_, ?_⟩
    · exact fun name member dependency => ordered.idxOf_lt_or_reaches member
    · intro strict rejected
      rw [sort_skip_of_reject rejected] at sorted
      exact Except.ok.inj sorted

/-- The diamond has the same order if cycles are skipped, and the loop has one, too. -/
theorem sort_skip_exact_of_loop :
    ("a" ∈ (ofAdditions diamondAndLoop).nodes ∧
      (ofAdditions diamondAndLoop).sortFrom .skip "a" = .ok ["d", "b", "c", "a"]) ∧
    "e" ∈ (ofAdditions diamondAndLoop).nodes ∧
      (∃ name, Adds diamondAndLoop "e" name ∧ ReflTransGen (Adds diamondAndLoop) name "e") ∧
        ∃ order, (ofAdditions diamondAndLoop).sortFrom .skip "e" = .ok order ∧
          order.getLast? = some "e" ∧ "d" ∈ order := by
  have isNode : "a" ∈ (ofAdditions diamondAndLoop).nodes := by decide +kernel
  have isNodeToo : "e" ∈ (ofAdditions diamondAndLoop).nodes := by decide +kernel
  refine ⟨⟨isNode, ?_⟩, isNodeToo, ?_, ?_⟩
  · obtain ⟨order, sorted, _, _, _, _, same⟩ := (sort_skip_exact diamondAndLoop).1 "a" isNode
    rw [sorted, same _ sortFrom_reject_diamond]
  · have there : Adds diamondAndLoop "e" "f" := by decide
    have back : Adds diamondAndLoop "f" "e" := by decide
    exact ⟨"f", there, .single back⟩
  · obtain ⟨order, sorted, _, exact, last, _⟩ := (sort_skip_exact diamondAndLoop).1 "e" isNodeToo
    have toDiamond : Adds diamondAndLoop "e" "a" := by decide
    have inside : Adds diamondAndLoop "a" "b" := by decide
    have atEnd : Adds diamondAndLoop "b" "d" := by decide
    refine ⟨order, sorted, last, (exact "d").mpr ?_⟩
    exact ((ReflTransGen.single toDiamond).tail inside).tail atEnd

end ApiScaffold.DependencyGraph
