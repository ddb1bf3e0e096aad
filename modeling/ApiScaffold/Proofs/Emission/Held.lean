import ApiScaffold.Emission.RustBoxing
import ApiScaffold.Proofs.Outcome
import ApiScaffold.Proofs.Service.WellFormed
import Mathlib.Logic.Relation

/-!
# Structs that hold each other

A name stands for a struct if references alone lead from its model to the struct.  In a
well-formed service a field holds the struct that its reference stands for, and nothing if it
has none: references come to an end because the models that are written out have ranks.

The search for the struct that owns a field is exact.  Everything that a struct holds was
either seen or is pending, so a search that runs out has seen all that can be reached; and it
cannot run out of rounds, because each property is followed at most once.

Neither following references nor searching has a bound of its own.  Both are relations first, in
which a derivation is a run that comes to an end; what a run ends with is right whatever the
bound.  The functions find such a run, because their bounds are never reached.
-/

namespace ApiScaffold.RustCode

open Relation

/-- Whether references lead from a name to a struct, which the name itself may have. -/
inductive StandsFor (models : Entries String Model) : String → String → Prop
  | struct {name : String} {model : Model} (found : models.get? name = some model)
      (isStruct : model.isStruct = true) : StandsFor models name name
  | reference {name next held : String} {model : Model} (found : models.get? name = some model)
      (isReference : model.isReference = true) (refers : model.name = some next)
      (stands : StandsFor models next held) : StandsFor models name held

/-- Whether a model is a reference whose name stands for a struct. -/
def HoldsStruct (models : Entries String Model) (model : Model) (held : String) : Prop :=
  model.isReference = true ∧ ∃ name, model.name = some name ∧ StandsFor models name held

/-- No struct is a reference. -/
theorem isReference_eq_false_of_isStruct {model : Model} (isStruct : model.isStruct = true) :
    model.isReference = false := by
  simp only [Model.isStruct, decide_eq_true_eq] at isStruct
  simp [Model.isReference, isStruct]

/-- A name stands for at most one struct. -/
theorem StandsFor.unique {models : Entries String Model} {name first second : String}
    (left : StandsFor models name first) (right : StandsFor models name second) :
    first = second := by
  induction left with
  | struct found isStruct =>
      cases right with
      | struct => rfl
      | reference otherFound isReference =>
          rw [found] at otherFound
          cases otherFound
          rw [isReference_eq_false_of_isStruct isStruct] at isReference
          cases isReference
  | reference found isReference refers _ ih =>
      cases right with
      | struct otherFound isStruct =>
          rw [found] at otherFound
          cases otherFound
          rw [isReference_eq_false_of_isStruct isStruct] at isReference
          cases isReference
      | reference otherFound _ otherRefers stands =>
          rw [found] at otherFound
          cases otherFound
          rw [refers] at otherRefers
          cases otherRefers
          exact ih stands

/-- What a name stands for is a struct. -/
theorem StandsFor.exists_struct {models : Entries String Model} {name held : String}
    (stands : StandsFor models name held) :
    ∃ model, models.get? held = some model ∧ model.isStruct = true := by
  induction stands with
  | struct found isStruct => exact ⟨_, found, isStruct⟩
  | reference _ _ _ _ ih => exact ih

/-! ## Runs without bounds -/

/-- Following references from a model ends with the struct that it holds, or with none. -/
inductive FollowsTo (models : Entries String Model) : Model → Option String → Prop
  | nothing {model : Model} (noReference : model.isReference = false) :
      FollowsTo models model none
  | struct {model target : Model} {name : String} (isReference : model.isReference = true)
      (refers : model.name = some name) (found : models.get? name = some target)
      (isStruct : target.isStruct = true) : FollowsTo models model (some name)
  | onward {model target : Model} {name : String} {held : Option String}
      (isReference : model.isReference = true) (refers : model.name = some name)
      (found : models.get? name = some target) (noStruct : target.isStruct = false)
      (follows : FollowsTo models target held) : FollowsTo models model held

/-- The search for the owner of a field ends with an answer: whether the owner was found among
the pending structs and all that they hold.  The struct that was found last is looked at first,
and no struct is looked at twice. -/
inductive SearchesTo (models : Entries String Model) (owner : String) :
    List String → List String → Bool → Prop
  | exhausted {seen : List String} : SearchesTo models owner seen [] false
  | found {seen pending : List String} : SearchesTo models owner seen (owner :: pending) true
  | skip {seen pending : List String} {name : String} {answer : Bool} (notOwner : name ≠ owner)
      (wasSeen : name ∈ seen) (rest : SearchesTo models owner seen pending answer) :
      SearchesTo models owner seen (name :: pending) answer
  | look {seen pending : List String} {name : String} {model : Model}
      {held : List (Option String)} {answer : Bool} (notOwner : name ≠ owner)
      (unseen : name ∉ seen) (isModel : models.get? name = some model)
      (follows : List.Forall₂ (fun property inside => FollowsTo models property.2 inside)
        model.properties held)
      (rest : SearchesTo models owner (name :: seen) ((held.filterMap id).reverse ++ pending)
        answer) :
      SearchesTo models owner seen (name :: pending) answer

/-- Asking whether a field of a struct leads back to the struct ends with an answer. -/
inductive AnswersTo (models : Entries String Model) (owner : String) : Model → Bool → Prop
  | nothing {model : Model} (follows : FollowsTo models model none) :
      AnswersTo models owner model false
  | struct {model : Model} {start : String} {answer : Bool}
      (follows : FollowsTo models model (some start))
      (searches : SearchesTo models owner [] [start] answer) :
      AnswersTo models owner model answer

/-- What following references ends with is the struct that the model holds. -/
theorem FollowsTo.eq_some_iff {models : Entries String Model} {model : Model}
    {held : Option String} (follows : FollowsTo models model held) {name : String} :
    held = some name ↔ HoldsStruct models model name := by
  induction follows with
  | nothing noReference => simp [HoldsStruct, noReference]
  | struct isReference refers found isStruct =>
      rw [Option.some.injEq]
      constructor
      · rintro rfl
        exact ⟨isReference, _, refers, .struct found isStruct⟩
      · rintro ⟨_, other, sameName, stands⟩
        cases refers.symm.trans sameName
        exact (StandsFor.struct found isStruct).unique stands
  | @onward _ _ own _ isReference refers found noStruct _ ih =>
      rw [ih]
      constructor
      · rintro ⟨targetRefers, next, hasName, stands⟩
        exact ⟨isReference, own, refers, .reference found targetRefers hasName stands⟩
      · rintro ⟨_, other, sameName, stands⟩
        cases refers.symm.trans sameName
        cases stands with
        | struct otherFound otherIsStruct =>
            cases found.symm.trans otherFound
            rw [noStruct] at otherIsStruct
            cases otherIsStruct
        | reference otherFound targetRefers hasName stands =>
            cases found.symm.trans otherFound
            exact ⟨targetRefers, _, hasName, stands⟩

/-- Following references ends with one thing only. -/
theorem FollowsTo.unique {models : Entries String Model} {model : Model}
    {first second : Option String} (left : FollowsTo models model first)
    (right : FollowsTo models model second) : first = second := by
  ext name
  rw [left.eq_some_iff, right.eq_some_iff]

/-! ## The struct that a field holds -/

variable {service : Service}

/-- Enough steps follow references to the end.  An alias refers to lower ranks only, so fewer
steps are enough from it on. -/
theorem exists_followsTo (wellFormed : service.WellFormed)
    (ranked : ExpansionRank service.models) {steps : Nat} {model : Model} (plain : model.Plain)
    (resolved : model.Resolved service.models)
    (enough : model.RefersWithin fun name => ranked.rank name < steps) :
    ∃ held, heldWithin service steps model = .ok held ∧ FollowsTo service.models model held := by
  induction steps generalizing model with
  | zero =>
      cases isReference : model.isReference with
      | true =>
          obtain ⟨name, description, rfl⟩ := plain.shaped.exists_reference isReference
          have impossible := (Model.refersWithin_reference name description).mp enough
          exact absurd impossible (Nat.not_lt_zero _)
      | false => exact ⟨none, by simp [heldWithin, isReference], .nothing isReference⟩
  | succ steps ih =>
      cases isReference : model.isReference with
      | true =>
          obtain ⟨name, description, rfl⟩ := plain.shaped.exists_reference isReference
          have lower := (Model.refersWithin_reference name description).mp enough
          have isKey := (Model.refersWithin_reference name description).mp resolved
          obtain ⟨target, found⟩ := Entries.mem_keys_iff.mp isKey
          have isTarget := Service.model_of_get? found
          cases isStruct : target.isStruct with
          | true =>
              refine ⟨some name, ?_, .struct isReference rfl found isStruct⟩
              rw [heldWithin]
              simp [isReference, isTarget, isStruct, bind, Except.bind, pure, Except.pure]
          | false =>
              have later : target.RefersWithin fun other => ranked.rank other < steps := by
                intro other refers
                exact Nat.lt_of_lt_of_le (ranked.rank_lt found isStruct refers)
                  (Nat.le_of_lt_succ lower)
              obtain ⟨held, succeeded, follows⟩ := ih
                ((wellFormed.flat found).plain_of_isStruct_eq_false isStruct)
                (wellFormed.resolved found) later
              refine ⟨held, ?_, .onward isReference rfl found isStruct follows⟩
              rw [heldWithin]
              simp [isReference, isTarget, isStruct, bind, Except.bind, succeeded]
      | false => exact ⟨none, by simp [heldWithin, isReference], .nothing isReference⟩

/-- The struct that a plain model holds is what following its references ends with. -/
theorem exists_heldStruct_followsTo (wellFormed : service.WellFormed) {model : Model}
    (plain : model.Plain) (resolved : model.Resolved service.models) :
    ∃ held, heldStruct service model = .ok held ∧ FollowsTo service.models model held := by
  obtain ⟨ranked⟩ := wellFormed.ranked
  apply exists_followsTo wellFormed ranked plain resolved
  intro name _
  exact Nat.lt_succ_of_le (ranked.rank_le_length name)

theorem heldStruct_eq_ok_iff (wellFormed : service.WellFormed) {model : Model}
    (plain : model.Plain) (resolved : model.Resolved service.models) {held : Option String} :
    heldStruct service model = .ok held ↔ FollowsTo service.models model held := by
  obtain ⟨answer, succeeded, follows⟩ := exists_heldStruct_followsTo wellFormed plain resolved
  rw [succeeded, Except.ok.injEq]
  constructor
  · rintro rfl
    exact follows
  · exact follows.unique

/-- The struct that a plain model holds is found, if there is one. -/
theorem exists_heldStruct (wellFormed : service.WellFormed) {model : Model}
    (plain : model.Plain) (resolved : model.Resolved service.models) :
    ∃ held, heldStruct service model = .ok held ∧
      ∀ name, held = some name ↔ HoldsStruct service.models model name := by
  obtain ⟨held, succeeded, follows⟩ := exists_heldStruct_followsTo wellFormed plain resolved
  exact ⟨held, succeeded, fun _ => follows.eq_some_iff⟩

theorem heldStruct_eq_some_iff (wellFormed : service.WellFormed) {model : Model}
    (plain : model.Plain) (resolved : model.Resolved service.models) {name : String} :
    heldStruct service model = .ok (some name) ↔ HoldsStruct service.models model name := by
  obtain ⟨held, succeeded, isHeld⟩ := exists_heldStruct wellFormed plain resolved
  rw [succeeded, Except.ok.injEq]
  exact isHeld name

/-- Whether some field of a named struct holds another one. -/
def Holds (service : Service) (owner held : String) : Prop :=
  ∃ model, service.models.get? owner = some model ∧
    ∃ property ∈ model.properties, heldStruct service property.2 = .ok (some held)

/-- What a struct holds is a struct. -/
theorem Holds.exists_struct (wellFormed : service.WellFormed) {owner held : String}
    (holds : Holds service owner held) :
    ∃ model, service.models.get? held = some model ∧ model.isStruct = true := by
  obtain ⟨model, found, property, member, isHeld⟩ := holds
  obtain ⟨_, _, _, stands⟩ := (heldStruct_eq_some_iff wellFormed
    ((wellFormed.flat found).plain_of_mem_properties member)
    ((wellFormed.resolved found).of_mem_properties member)).mp isHeld
  exact stands.exists_struct

/-- The structs that a named model holds are found by following each of its properties. -/
theorem exists_heldStructs (wellFormed : service.WellFormed) {name : String} {model : Model}
    (found : service.models.get? name = some model) :
    ∃ held, heldStructs service name = .ok (held.filterMap id) ∧
      List.Forall₂ (fun property inside => FollowsTo service.models property.2 inside)
        model.properties held := by
  have each : ∀ property ∈ model.properties, ∃ held, heldStruct service property.2 = .ok held := by
    intro property member
    obtain ⟨held, succeeded, _⟩ := exists_heldStruct wellFormed
      ((wellFormed.flat found).plain_of_mem_properties member)
      ((wellFormed.resolved found).of_mem_properties member)
    exact ⟨held, succeeded⟩
  obtain ⟨held, succeeded⟩ := Outcome.exists_mapM each
  refine ⟨held, ?_, ?_⟩
  · simp [heldStructs, Service.model_of_get? found, bind, Except.bind, succeeded, pure,
      Except.pure]
  · apply ((List.forall₂_and_left _ _).mpr
      ⟨fun _ member => member, Outcome.mapM_eq_ok_iff.mp succeeded⟩).imp
    rintro property inside ⟨member, isHeld⟩
    exact (heldStruct_eq_ok_iff wellFormed
      ((wellFormed.flat found).plain_of_mem_properties member)
      ((wellFormed.resolved found).of_mem_properties member)).mp isHeld

/-- What the properties of a named model lead to is what the model holds. -/
theorem mem_filterMap_iff_holds (wellFormed : service.WellFormed) {name : String} {model : Model}
    (found : service.models.get? name = some model) {held : List (Option String)}
    (follows : List.Forall₂ (fun property inside => FollowsTo service.models property.2 inside)
      model.properties held) (other : String) :
    other ∈ held.filterMap id ↔ Holds service name other := by
  have each : ∀ property ∈ model.properties, ∀ inside,
      heldStruct service property.2 = .ok inside ↔ FollowsTo service.models property.2 inside := by
    intro property member inside
    exact heldStruct_eq_ok_iff wellFormed
      ((wellFormed.flat found).plain_of_mem_properties member)
      ((wellFormed.resolved found).of_mem_properties member)
  simp only [List.mem_filterMap, id_eq, exists_eq_right, Holds, found, Option.some.injEq,
    exists_eq_left']
  constructor
  · intro member
    obtain ⟨property, isProperty, leads⟩ := Entries.exists_left_of_forall₂ follows member
    exact ⟨property, isProperty, (each property isProperty _).mpr leads⟩
  · rintro ⟨property, isProperty, isHeld⟩
    obtain ⟨inside, member, leads⟩ := Entries.exists_left_of_forall₂ follows.flip isProperty
    rwa [← leads.unique ((each property isProperty _).mp isHeld)]

/-! ## The search for the owner -/

/-- How many properties the models have that were not looked at yet. -/
def unseenProperties : Entries String Model → List String → Nat
  | [], _ => 0
  | (name, model) :: rest, seen =>
      (if name ∈ seen then 0 else model.properties.length) + unseenProperties rest seen

theorem propertyCount_eq (service : Service) :
    propertyCount service = unseenProperties service.models [] := by
  have added : ∀ (models : Entries String Model) (total : Nat),
      models.foldl (fun total entry => total + entry.2.properties.length) total =
        total + unseenProperties models [] := by
    intro models
    induction models with
    | nil => exact fun total => rfl
    | cons entry rest ih => simp [unseenProperties, ih, Nat.add_assoc]
  rw [propertyCount, added, Nat.zero_add]

/-- Nothing is left to look at in a model that was seen. -/
theorem unseenProperties_cons_le_self (models : Entries String Model) (seen : List String)
    (name : String) : unseenProperties models (name :: seen) ≤ unseenProperties models seen := by
  induction models with
  | nil => exact Nat.le_refl 0
  | cons entry rest ih =>
      by_cases inSeen : entry.1 ∈ seen
      · simpa [unseenProperties, inSeen] using ih
      · by_cases isName : entry.1 = name
        · simp only [unseenProperties, isName, List.mem_cons_self, if_true]
          omega
        · simpa [unseenProperties, inSeen, isName] using ih

/-- Looking at a model takes its properties off those that are left. -/
theorem unseenProperties_cons_le {models : Entries String Model} {seen : List String}
    {name : String} {model : Model} (member : (name, model) ∈ models) (unseen : name ∉ seen) :
    model.properties.length + unseenProperties models (name :: seen) ≤
      unseenProperties models seen := by
  induction models with
  | nil => cases member
  | cons entry rest ih =>
      rcases List.mem_cons.mp member with rfl | inRest
      · have others := unseenProperties_cons_le_self rest seen name
        simpa [unseenProperties, unseen] using others
      · have others := ih inRest
        have here := unseenProperties_cons_le_self [entry] seen name
        simp only [unseenProperties] at here ⊢
        omega

/-- Whatever the structs hold that were seen was either seen or is pending. -/
structure Frontier (service : Service) (seen pending : List String) : Prop where
  named : ∀ name ∈ pending, name ∈ service.models.keys
  held : ∀ name ∈ seen, ∀ inside, Holds service name inside → inside ∈ seen ∨ inside ∈ pending

/-- Whether one of these structs leads to the owner. -/
def LeadTo (service : Service) (owner : String) (names : List String) : Prop :=
  ∃ name ∈ names, ReflTransGen (Holds service) name owner

/-- A search starts with a struct that is held. -/
theorem frontier_of_followsTo {model : Model} {start : String}
    (follows : FollowsTo service.models model (some start)) : Frontier service [] [start] := by
  obtain ⟨_, _, _, stands⟩ := follows.eq_some_iff.mp rfl
  obtain ⟨target, found, _⟩ := stands.exists_struct
  constructor
  · simpa using Entries.mem_keys_iff.mpr ⟨target, found⟩
  · simp

/-- From a struct that was seen nothing is reached but what was seen, or what is reached from
pending structs. -/
theorem Frontier.reached {seen pending : List String} (frontier : Frontier service seen pending)
    {name owner : String} (member : name ∈ seen)
    (leads : ReflTransGen (Holds service) name owner) :
    owner ∈ seen ∨ LeadTo service owner pending := by
  induction leads with
  | refl => exact Or.inl member
  | tail _ holds ih =>
      rcases ih with inSeen | ⟨other, isPending, leads⟩
      · rcases frontier.held _ inSeen _ holds with seenToo | isPending
        · exact Or.inl seenToo
        · exact Or.inr ⟨_, isPending, .refl⟩
      · exact Or.inr ⟨other, isPending, leads.tail holds⟩

/-- A struct that was seen need not be looked at again. -/
theorem Frontier.skip {seen pending : List String} {name : String}
    (frontier : Frontier service seen (name :: pending)) (inSeen : name ∈ seen) :
    Frontier service seen pending := by
  constructor
  · intro other member
    exact frontier.named other (List.mem_cons_of_mem name member)
  · intro other member inside holds
    rcases frontier.held other member inside holds with seenToo | isPending
    · exact Or.inl seenToo
    · rcases List.mem_cons.mp isPending with rfl | later
      · exact Or.inl inSeen
      · exact Or.inr later

/-- A struct has been looked at once everything that it holds is pending. -/
theorem Frontier.expand (wellFormed : service.WellFormed) {seen pending held : List String}
    {name : String} (frontier : Frontier service seen (name :: pending))
    (isHeld : ∀ other, other ∈ held ↔ Holds service name other) :
    Frontier service (name :: seen) (held.reverse ++ pending) := by
  constructor
  · intro other member
    rcases List.mem_append.mp member with isNew | later
    · have holds := (isHeld other).mp (List.mem_reverse.mp isNew)
      obtain ⟨target, found, _⟩ := holds.exists_struct wellFormed
      exact Entries.mem_keys_iff.mpr ⟨target, found⟩
    · exact frontier.named other (List.mem_cons_of_mem name later)
  · intro other member inside holds
    rcases List.mem_cons.mp member with rfl | wasSeen
    · have isNew := List.mem_reverse.mpr ((isHeld inside).mpr holds)
      exact Or.inr (List.mem_append_left pending isNew)
    · rcases frontier.held other wasSeen inside holds with seenToo | isPending
      · exact Or.inl (List.mem_cons_of_mem name seenToo)
      · rcases List.mem_cons.mp isPending with rfl | later
        · exact Or.inl List.mem_cons_self
        · exact Or.inr (List.mem_append_right _ later)

/-- As long as the owner was not seen, a struct that was seen leads nowhere new. -/
theorem Frontier.leadTo_cons_iff {seen pending : List String} {name owner : String}
    (frontier : Frontier service seen pending) (inSeen : name ∈ seen) (notYet : owner ∉ seen) :
    LeadTo service owner (name :: pending) ↔ LeadTo service owner pending := by
  constructor
  · rintro ⟨other, isPending, leads⟩
    rcases List.mem_cons.mp isPending with rfl | later
    · exact (frontier.reached inSeen leads).resolve_left notYet
    · exact ⟨other, later, leads⟩
  · rintro ⟨other, isPending, leads⟩
    exact ⟨other, List.mem_cons_of_mem name isPending, leads⟩

/-- A struct that is not the owner leads to it by way of what it holds. -/
theorem leadTo_expand_iff {pending held : List String} {name owner : String}
    (isHeld : ∀ other, other ∈ held ↔ Holds service name other) (notOwner : name ≠ owner) :
    LeadTo service owner (name :: pending) ↔ LeadTo service owner (held.reverse ++ pending) := by
  constructor
  · rintro ⟨other, member, leads⟩
    rcases List.mem_cons.mp member with rfl | later
    · rcases ReflTransGen.cases_head leads with same | ⟨inside, holds, onward⟩
      · exact absurd same notOwner
      · have isNew := List.mem_reverse.mpr ((isHeld inside).mpr holds)
        exact ⟨inside, List.mem_append_left pending isNew, onward⟩
    · exact ⟨other, List.mem_append_right _ later, leads⟩
  · rintro ⟨other, member, leads⟩
    rcases List.mem_append.mp member with isNew | later
    · have holds := (isHeld other).mp (List.mem_reverse.mp isNew)
      exact ⟨name, List.mem_cons_self, .head holds leads⟩
    · exact ⟨other, List.mem_cons_of_mem name later, leads⟩

/-- What the search ends with is whether a pending struct leads to the owner.  Along the run the
frontier is kept, and what leads to the owner stays the same. -/
theorem SearchesTo.eq_true_iff (wellFormed : service.WellFormed) {owner : String}
    {seen pending : List String} {answer : Bool}
    (searches : SearchesTo service.models owner seen pending answer)
    (frontier : Frontier service seen pending) (notYet : owner ∉ seen) :
    answer = true ↔ LeadTo service owner pending := by
  induction searches with
  | exhausted => simp [LeadTo]
  | found => simp [LeadTo, ReflTransGen.refl]
  | skip _ wasSeen _ ih =>
      have later := frontier.skip wasSeen
      rw [ih later notYet, later.leadTo_cons_iff wasSeen notYet]
  | @look seen _ name _ _ _ notOwner _ isModel follows _ ih =>
      have isHeld := mem_filterMap_iff_holds wellFormed isModel follows
      have notNow : owner ∉ name :: seen := by simp [Ne.symm notOwner, notYet]
      rw [ih (frontier.expand wellFormed isHeld) notNow, leadTo_expand_iff isHeld notOwner]

/-- Enough rounds take a search to its end.  A round takes a name off the pending ones, or trades
the properties of a model for them. -/
theorem exists_searchesTo (wellFormed : service.WellFormed) {owner : String} {rounds : Nat}
    {seen pending : List String} (frontier : Frontier service seen pending)
    (enough : pending.length + unseenProperties service.models seen ≤ rounds) :
    ∃ answer, reaches service owner rounds seen pending = .ok answer ∧
      SearchesTo service.models owner seen pending answer := by
  induction rounds generalizing seen pending with
  | zero =>
      have empty : pending = [] := List.eq_nil_of_length_eq_zero (by omega)
      subst empty
      exact ⟨false, rfl, .exhausted⟩
  | succ rounds ih =>
      cases pending with
      | nil => exact ⟨false, rfl, .exhausted⟩
      | cons name pending =>
          rw [reaches]
          rw [List.length_cons] at enough
          by_cases isOwner : name = owner
          · subst isOwner
            exact ⟨true, by rw [if_pos rfl], .found⟩
          rw [if_neg isOwner]
          by_cases inSeen : name ∈ seen
          · obtain ⟨answer, succeeded, searches⟩ := ih (frontier.skip inSeen) (by omega)
            exact ⟨answer, by simp [inSeen, succeeded], .skip isOwner inSeen searches⟩
          · obtain ⟨model, isModel⟩ :=
              Entries.mem_keys_iff.mp (frontier.named name List.mem_cons_self)
            obtain ⟨held, areHeld, follows⟩ := exists_heldStructs wellFormed isModel
            have isHeld := mem_filterMap_iff_holds wellFormed isModel follows
            have few : (held.filterMap id).length ≤ model.properties.length :=
              follows.length_eq ▸ List.length_filterMap_le _ _
            have fewer := unseenProperties_cons_le (Entries.mem_of_get? isModel) inSeen
            have bound : ((held.filterMap id).reverse ++ pending).length +
                unseenProperties service.models (name :: seen) ≤ rounds := by
              rw [List.length_append, List.length_reverse]
              omega
            obtain ⟨answer, succeeded, searches⟩ := ih (frontier.expand wellFormed isHeld) bound
            exact ⟨answer, by simpa [inSeen, areHeld, bind, Except.bind] using succeeded,
              .look isOwner inSeen isModel follows searches⟩

/-- Whether the struct that a field holds leads back to the owner of the field. -/
def LeadsBack (service : Service) (owner : String) (model : Model) : Prop :=
  ∃ held, heldStruct service model = .ok (some held) ∧ ReflTransGen (Holds service) held owner

/-- Asking whether a field leads back comes to an end, and the answer is right. -/
theorem AnswersTo.eq_true_iff (wellFormed : service.WellFormed) {owner : String} {model : Model}
    (plain : model.Plain) (resolved : model.Resolved service.models) {answer : Bool}
    (answers : AnswersTo service.models owner model answer) :
    answer = true ↔ LeadsBack service owner model := by
  simp only [LeadsBack, heldStruct_eq_ok_iff wellFormed plain resolved]
  cases answers with
  | nothing follows =>
      constructor
      · intro impossible
        cases impossible
      · rintro ⟨held, leads, _⟩
        cases follows.unique leads
  | @struct start _ follows searches =>
      rw [searches.eq_true_iff wellFormed (frontier_of_followsTo follows) List.not_mem_nil]
      constructor
      · rintro ⟨name, isStart, leads⟩
        rw [List.mem_singleton] at isStart
        exact ⟨start, follows, isStart ▸ leads⟩
      · rintro ⟨held, otherFollows, leads⟩
        cases follows.unique otherFollows
        exact ⟨start, List.mem_singleton_self start, leads⟩

/-- Whether a field leads back is what asking for it ends with. -/
theorem exists_isRecursive_answersTo (wellFormed : service.WellFormed) (owner : String)
    {model : Model} (plain : model.Plain) (resolved : model.Resolved service.models) :
    ∃ boxed, isRecursive service owner model = .ok boxed ∧
      AnswersTo service.models owner model boxed := by
  obtain ⟨held, succeeded, follows⟩ := exists_heldStruct_followsTo wellFormed plain resolved
  simp only [isRecursive, succeeded, bind, Except.bind]
  cases held with
  | none => exact ⟨false, rfl, .nothing follows⟩
  | some start =>
      have enough : [start].length + unseenProperties service.models [] ≤
          propertyCount service + 1 := by
        rw [propertyCount_eq, List.length_singleton, Nat.add_comm]
      obtain ⟨boxed, searched, searches⟩ :=
        exists_searchesTo wellFormed (frontier_of_followsTo follows) enough
      exact ⟨boxed, searched, .struct follows searches⟩

/-- A field is found to be recursive exactly if the struct that it holds leads back. -/
theorem exists_isRecursive (wellFormed : service.WellFormed) (owner : String) {model : Model}
    (plain : model.Plain) (resolved : model.Resolved service.models) :
    ∃ boxed, isRecursive service owner model = .ok boxed ∧
      (boxed = true ↔ LeadsBack service owner model) := by
  obtain ⟨boxed, asked, answers⟩ :=
    exists_isRecursive_answersTo wellFormed owner plain resolved
  exact ⟨boxed, asked, answers.eq_true_iff wellFormed plain resolved⟩

end ApiScaffold.RustCode
