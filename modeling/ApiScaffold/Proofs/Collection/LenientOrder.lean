import ApiScaffold.Proofs.Collection.Cycle

/-!
# Orders that skip cycles

If edges back into the path of a visit are left out, every graph has an order.  A node comes
after everything that one of its dependencies reaches, unless that dependency leads back to
the node.

The reason is that whatever a listed node depends on is listed or still on the path.  When a
node is completed, its dependency either reaches the path, which leads to the node, or reaches
listed nodes only.
-/

namespace ApiScaffold.DependencyGraph

open Relation

universe u

variable {α : Type u} [DecidableEq α]

/-- A list in which a node comes after everything that one of its dependencies reaches, unless
the dependency leads back to the node. -/
inductive CompletedFirst (graph : DependencyGraph α) : List α → Prop
  | nil : CompletedFirst graph []
  | snoc {listed : List α} (ordered : CompletedFirst graph listed) {name : α}
      (before : ∀ dependency ∈ graph.dependencies name,
        ReflTransGen graph.Depends dependency name ∨
          ∀ reached, ReflTransGen graph.Depends dependency reached → reached ∈ listed) :
      CompletedFirst graph (listed ++ [name])

/-- What a dependency reaches stands at a lower position, unless it leads back. -/
theorem CompletedFirst.idxOf_lt {graph : DependencyGraph α} {listed : List α}
    (ordered : graph.CompletedFirst listed) {name dependency : α} (member : name ∈ listed)
    (depends : graph.Depends name dependency)
    (forward : ¬ ReflTransGen graph.Depends dependency name) {reached : α}
    (reaches : ReflTransGen graph.Depends dependency reached) :
    listed.idxOf reached < listed.idxOf name := by
  have known : reached ∈ listed ∧ listed.idxOf reached < listed.idxOf name := by
    induction ordered with
    | nil => cases member
    | @snoc listed ordered last before ih =>
        by_cases earlier : name ∈ listed
        · obtain ⟨inListed, lower⟩ := ih earlier
          refine ⟨List.mem_append_left _ inListed, ?_⟩
          rw [List.idxOf_append_of_mem inListed, List.idxOf_append_of_mem earlier]
          exact lower
        · have isLast : name = last := by simpa [earlier] using member
          subst isLast
          have inListed := (before dependency depends).resolve_left forward reached reaches
          exact ⟨List.mem_append_left _ inListed, idxOf_lt_idxOf_last inListed earlier⟩
  exact known.2

/-- Whether everything that a listed node depends on is listed or on a path. -/
def ClosedUpTo (graph : DependencyGraph α) (path listed : List α) : Prop :=
  ∀ name ∈ listed, ∀ dependency ∈ graph.dependencies name, dependency ∈ listed ∨ dependency ∈ path

/-- What a listed node reaches is listed, unless the node reaches the path. -/
theorem ClosedUpTo.reached {graph : DependencyGraph α} {path listed : List α}
    (closed : graph.ClosedUpTo path listed) {name reached : α} (member : name ∈ listed)
    (reaches : ReflTransGen graph.Depends name reached) :
    reached ∈ listed ∨ ∃ entered ∈ path, ReflTransGen graph.Depends name entered := by
  induction reaches with
  | refl => exact Or.inl member
  | tail early depends ih =>
      rcases ih with inListed | onPath
      · rcases closed _ inListed _ depends with listedToo | onPath
        · exact Or.inl listedToo
        · exact Or.inr ⟨_, onPath, early.tail depends⟩
      · exact Or.inr onPath

/-- The nodes that a visit has listed: each after what it depends on, as far as that does not
lead back, and closed up to the path of the visit. -/
structure Completed (graph : DependencyGraph α) (path listed : List α) : Prop where
  ordered : graph.CompletedFirst listed
  closed : graph.ClosedUpTo path listed

/-- Completing the last node of a path: all its dependencies are listed or on the path.  Whoever
meets the path goes on to that node. -/
theorem Completed.insert {graph : DependencyGraph α} {path : List α} {name : α}
    {listed : OrderedSet α} (completed : graph.Completed (path ++ [name]) listed.items)
    (leads : ∀ entered ∈ path, ReflTransGen graph.Depends entered name)
    (visited : ∀ dependency ∈ graph.dependencies name,
      dependency ∈ listed.items ∨ dependency ∈ path ++ [name]) :
    graph.Completed path (listed.insert name).items := by
  have leadsHere : ∀ entered ∈ path ++ [name], ReflTransGen graph.Depends entered name := by
    intro entered member
    rcases List.mem_append.mp member with before | last
    · exact leads entered before
    · rw [List.mem_singleton.mp last]
  have resolve : ∀ dependency, dependency ∈ listed.items ∨ dependency ∈ path ++ [name] →
      dependency ∈ (listed.insert name).items ∨ dependency ∈ path := by
    intro dependency known
    simp only [OrderedSet.mem_items_insert, List.mem_append, List.mem_singleton] at known ⊢
    tauto
  constructor
  · rw [OrderedSet.items_insert]
    split
    · exact completed.ordered
    · apply completed.ordered.snoc
      intro dependency depends
      rcases visited dependency depends with inListed | onPath
      · by_cases back : ReflTransGen graph.Depends dependency name
        · exact Or.inl back
        · right
          intro reached reaches
          rcases completed.closed.reached inListed reaches with listedToo | ⟨entered, onPath, met⟩
          · exact listedToo
          · exact absurd (met.trans (leadsHere entered onPath)) back
      · exact Or.inl (leadsHere dependency onPath)
  · intro other member dependency depends
    apply resolve
    rcases (OrderedSet.mem_items_insert _ _ _).mp member with inListed | rfl
    · exact completed.closed other inListed dependency depends
    · exact visited dependency depends

/-- Skipping edges back into the path, a visit completes all that is pending and not on the
path. -/
theorem visit_skip_spec {graph : DependencyGraph α} {path pending : List α}
    {listed result : OrderedSet α} (visited : graph.visit .skip path pending listed = .ok result)
    (leads : ∀ entered ∈ path, ∀ name ∈ pending, ReflTransGen graph.Depends entered name)
    (completed : graph.Completed path listed.items) :
    graph.Completed path result.items ∧ (∀ name ∈ listed.items, name ∈ result.items) ∧
      ∀ name ∈ pending, name ∈ result.items ∨ name ∈ path := by
  fun_induction DependencyGraph.visit graph .skip path pending listed generalizing result with
  | case1 =>
      cases visited
      exact ⟨completed, fun _ member => member, by simp⟩
  | case2 path name rest listed known ih =>
      obtain ⟨after, grows, complete⟩ := ih visited
        (fun entered onPath other member => leads entered onPath other
          (List.mem_cons_of_mem _ member)) completed
      refine ⟨after, grows, ?_⟩
      intro other member
      rcases List.mem_cons.mp member with rfl | inRest
      · exact Or.inl (grows _ ((OrderedSet.contains_eq_true_iff _ _).mp known))
      · exact complete other inRest
  | case3 => contradiction
  | case4 path name rest listed unknown onPath _ ih =>
      obtain ⟨after, grows, complete⟩ := ih visited
        (fun entered onPath other member => leads entered onPath other
          (List.mem_cons_of_mem _ member)) completed
      refine ⟨after, grows, ?_⟩
      intro other member
      rcases List.mem_cons.mp member with rfl | inRest
      · exact Or.inr onPath
      · exact complete other inRest
  | case5 => cases visited
  | case6 path name rest listed unknown offPath extended inner ihInner ihRest =>
      have leadsInner : ∀ entered ∈ path ++ [name], ∀ dependency ∈ graph.dependencies name,
          ReflTransGen graph.Depends entered dependency := by
        intro entered member dependency depends
        rcases List.mem_append.mp member with before | last
        · exact (leads entered before name List.mem_cons_self).tail depends
        · rw [List.mem_singleton.mp last]
          exact .single depends
      have closedInner : graph.Completed (path ++ [name]) listed.items :=
        ⟨completed.ordered, fun other member dependency depends =>
          (completed.closed other member dependency depends).imp_right
            (List.mem_append_left _)⟩
      obtain ⟨afterInner, growsInner, completeInner⟩ := ihInner inner leadsInner closedInner
      have inserted := afterInner.insert
        (fun entered onPath => leads entered onPath name List.mem_cons_self) completeInner
      obtain ⟨after, grows, complete⟩ := ihRest visited
        (fun entered onPath other member => leads entered onPath other
          (List.mem_cons_of_mem _ member)) inserted
      refine ⟨after, ?_, ?_⟩
      · intro other member
        exact grows other (by simp [growsInner other member])
      · intro other member
        rcases List.mem_cons.mp member with rfl | inRest
        · exact Or.inl (grows _ (by simp))
        · exact complete other inRest

/-- A visit lists nothing but what was listed or pending, and what that depends on. -/
theorem forall_mem_of_visit {graph : DependencyGraph α} {policy : CyclePolicy}
    {path pending : List α} {listed result : OrderedSet α} {holds : α → Prop}
    (visited : graph.visit policy path pending listed = .ok result)
    (carries : ∀ name, holds name → ∀ dependency ∈ graph.dependencies name, holds dependency)
    (before : ∀ name ∈ listed.items, holds name) (ahead : ∀ name ∈ pending, holds name) :
    ∀ name ∈ result.items, holds name := by
  fun_induction DependencyGraph.visit graph policy path pending listed generalizing result with
  | case1 =>
      cases visited
      exact before
  | case2 path name rest listed known ih =>
      exact ih visited before fun other member => ahead other (List.mem_cons_of_mem _ member)
  | case3 => cases visited
  | case4 path name rest listed unknown onPath isSkip ih =>
      subst isSkip
      exact ih visited before fun other member => ahead other (List.mem_cons_of_mem _ member)
  | case5 => cases visited
  | case6 path name rest listed unknown offPath extended inner ihInner ihRest =>
      have here := ahead name List.mem_cons_self
      have afterInner := ihInner inner before (carries name here)
      apply ihRest visited
      · intro other member
        rcases (OrderedSet.mem_items_insert _ _ _).mp member with inExtended | rfl
        · exact afterInner other inExtended
        · exact here
      · exact fun other member => ahead other (List.mem_cons_of_mem _ member)

/-- Skipping cycles, every graph whose edges lead to its nodes has an order, which lists every
node once. -/
theorem exists_sort_skip (graph : DependencyGraph α) (distinct : graph.nodes.Nodup)
    (within : ∀ name dependency, graph.Depends name dependency → dependency ∈ graph.nodes) :
    ∃ order, graph.sort .skip = .ok order ∧ order.Perm graph.nodes ∧
      graph.CompletedFirst order := by
  obtain ⟨result, visited⟩ := graph.visit_skip_isOk [] graph.nodes .empty
  obtain ⟨completed, _, complete⟩ := visit_skip_spec visited (by simp)
    ⟨.nil, fun _ member => absurd member (by simp)⟩
  have isNode : ∀ name ∈ result.items, name ∈ graph.nodes :=
    forall_mem_of_visit visited (fun name _ => within name) (by simp) fun _ member => member
  refine ⟨result.items, by simp [sort, visited, Except.map], ?_, completed.ordered⟩
  rw [List.perm_ext_iff_of_nodup result.nodup distinct]
  exact fun name => ⟨isNode name, fun member => (complete name member).resolve_right (by simp)⟩

end ApiScaffold.DependencyGraph
