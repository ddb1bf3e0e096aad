import ApiScaffold.Proofs.Emission.Held
import ApiScaffold.Proofs.Service.ModelOrder

/-!
# Fields that lead back to their structs

Whether a field has to be boxed is decided by two searches that have no bounds of their own.  In a
built service both come to an end for every property of a struct: references do because no model
is written out forever, and the search for the owner because it takes up every struct once.

The answers are exact.  A property holds the struct at which its chain of references ends, and it
leads back to an owner exactly if that struct leads to the owner through what structs hold.
-/

namespace ApiScaffold

open Relation RustCode

/-- Whether a model belongs to a property of a struct.  Structs are named, or they are the bodies
of outputs. -/
def Service.HasProperty (service : Service) (model : Model) : Prop :=
  (∃ name struct, service.models.get? name = some struct ∧
    ∃ property ∈ struct.properties, property.2 = model) ∨
      ∃ operation ∈ service.operations, ∃ body ∈ operation.output.body,
        ∃ property ∈ body.properties, property.2 = model

/-- The properties of structs have no structs in them, and refer to named models. -/
theorem Service.WellFormed.plain_of_hasProperty {service : Service}
    (wellFormed : service.WellFormed) {model : Model} (isProperty : service.HasProperty model) :
    model.Plain ∧ model.Resolved service.models := by
  rcases isProperty with ⟨name, struct, found, property, member, rfl⟩ |
    ⟨operation, isOperation, body, isBody, property, member, rfl⟩
  · exact ⟨(wellFormed.flat found).plain_of_mem_properties member,
      (wellFormed.resolved found).of_mem_properties member⟩
  · obtain ⟨flat, resolved⟩ := wellFormed.outputBody operation isOperation body isBody
    exact ⟨flat.plain_of_mem_properties member, resolved.of_mem_properties member⟩

/-- The question whether a property leads back to an owner has an answer in every built service,
the one that the unbounded searches end with.  A property holds a struct exactly if a chain of
references ends there, and it leads back exactly if that struct leads to the owner. -/
theorem Document.decides_recursion {document : Document} {service : Service}
    (built : document.service = .ok service) {model : Model}
    (isProperty : service.HasProperty model) (owner : String) :
    (∃ held, heldStruct service model = .ok held) ∧
      (∀ held, heldStruct service model = .ok held ↔ FollowsTo service.models model held) ∧
        (∀ target, heldStruct service model = .ok (some target) ↔
          HoldsStruct service.models model target) ∧
          (∃ answer, isRecursive service owner model = .ok answer) ∧
            (∀ answer, isRecursive service owner model = .ok answer ↔
              AnswersTo service.models owner model answer) ∧
              (isRecursive service owner model = .ok true ↔
                ∃ target, heldStruct service model = .ok (some target) ∧
                  ReflTransGen (Holds service) target owner) := by
  have wellFormed := Document.wellFormed_of_service built
  obtain ⟨plain, resolved⟩ := wellFormed.plain_of_hasProperty isProperty
  obtain ⟨held, succeeded, _⟩ := exists_heldStruct wellFormed plain resolved
  obtain ⟨answer, asked, answers⟩ := exists_isRecursive_answersTo wellFormed owner plain resolved
  have isAnswer := answers.eq_true_iff wellFormed plain resolved
  refine ⟨⟨held, succeeded⟩, fun _ => heldStruct_eq_ok_iff wellFormed plain resolved,
    fun _ => heldStruct_eq_some_iff wellFormed plain resolved, ⟨answer, asked⟩, ?_, ?_⟩
  · intro other
    rw [asked, Except.ok.injEq]
    constructor
    · rintro rfl
      exact answers
    · intro otherAnswers
      rw [Bool.eq_iff_iff, isAnswer, otherAnswers.eq_true_iff wellFormed plain resolved]
  · rw [asked, Except.ok.injEq]
    exact isAnswer

/-- A node leads back to itself by way of an alias, and not by way of a list. -/
theorem decides_recursion_of_nodes :
    ∃ service node, nodeDocument.service = .ok service ∧
      service.models.get? "Node" = some node ∧
        (∃ property ∈ node.properties, property.1 = "next" ∧
          isRecursive service "Node" property.2 = .ok true) ∧
        ∃ property ∈ node.properties, property.1 = "others" ∧
          isRecursive service "Node" property.2 = .ok false := by
  let refersTo := fun (node : Model) (key target : String) => node.properties.any fun property =>
    property.1 = key && (property.2.isReference && property.2.name = some target)
  have passes : nodeDocument.draft.succeedsWith (fun draft =>
      draft.passes (fun name => if name = "Nodes" then 1 else 0) &&
        ((draft.models.get? "Next").any (fun model =>
            model.isReference && model.name = some "Node") &&
          ((draft.models.get? "Nodes").any (fun model => !model.isStruct && !model.isReference) &&
            (draft.models.get? "Node").any fun node =>
              node.isStruct && (refersTo node "next" "Next" && refersTo node "others" "Nodes")))) =
        true := by
    decide +kernel
  obtain ⟨draft, order, built, tested⟩ := Document.exists_service_of_test passes
  simp only [refersTo, Bool.and_eq_true, Option.any_eq_true, List.any_eq_true, decide_eq_true_eq,
    Bool.not_eq_true'] at tested
  obtain ⟨⟨next, isNext, nextRefers, nextName⟩, ⟨nodes, areNodes, noStruct, noReference⟩, node,
    isNode, isStruct, ⟨following, isFollowing, followingKey, followingRefers, followingName⟩,
    others, areOthers, othersKey, othersRefer, othersName⟩ := tested
  have ofNode : ∀ property ∈ node.properties,
      (draft.ordered nodeDocument order).HasProperty property.2 := fun property member =>
    Or.inl ⟨"Node", node, isNode, property, member, rfl⟩
  refine ⟨_, node, built, isNode, ⟨following, isFollowing, followingKey, ?_⟩, others, areOthers,
    othersKey, ?_⟩
  · obtain ⟨_, _, isHeld, _, _, isTrue⟩ :=
      Document.decides_recursion built (ofNode following isFollowing) "Node"
    have stands : StandsFor draft.models "Next" "Node" :=
      .reference isNext nextRefers nextName (.struct isNode isStruct)
    exact isTrue.mpr
      ⟨"Node", (isHeld "Node").mpr ⟨followingRefers, "Next", followingName, stands⟩, .refl⟩
  · obtain ⟨_, _, _, _, isAnswer, _⟩ :=
      Document.decides_recursion built (ofNode others areOthers) "Node"
    exact (isAnswer false).mpr
      (.nothing (.onward othersRefer othersName areNodes noStruct (.nothing noReference)))

end ApiScaffold
