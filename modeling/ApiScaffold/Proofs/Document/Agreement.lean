import ApiScaffold.Proofs.Document.Definitions
import ApiScaffold.Proofs.Outcome
import Mathlib.Data.List.Nodup
import Mathlib.Data.List.Perm.Subperm
import Mathlib.Data.Option.Basic
import Mathlib.Logic.Relation

/-!
# Documents whose pointers lead to the same

Following pointers finds every definition that an item leads to: nothing that leads to a
definition comes back to itself, so no pointer is followed twice, and no more pointers are
followed than there are definitions.

Two documents agree on a section if what the first one has under a name, or the definition that
this leads to, is like what the second one has there.  Then what is resolved in both is alike,
or it fails for the same reason.
-/

namespace ApiScaffold

/-- A section has no definitions in a document without components. -/
class IsSection (α : Type) [Component α] : Prop where
  definitions_eq_nil : ∀ document : Document, document.components = none →
    Component.definitions (α := α) document = []

instance : IsSection ParameterObject :=
  ⟨fun document absent => by simp [Component.definitions, Document.parameters, absent]⟩

instance : IsSection RequestBodyObject :=
  ⟨fun document absent => by simp [Component.definitions, Document.requestBodies, absent]⟩

instance : IsSection ResponseObject :=
  ⟨fun document absent => by simp [Component.definitions, Document.responses, absent]⟩

instance : IsSection HeaderObject :=
  ⟨fun document absent => by simp [Component.definitions, Document.headers, absent]⟩

namespace Document

open Relation

variable {α : Type} [Referable α]

/-! ## Chains of pointers -/

/-- Whether an item is a pointer to another one. -/
def Points (document : Document) (item next : α) : Prop :=
  ∃ pointer, Referable.ref item = some pointer ∧
    (Component.definitions document).get? (pointerName pointer) = some next

/-- A pointer has at most one target. -/
theorem Points.unique {document : Document} {item first second : α}
    (left : document.Points item first) (right : document.Points item second) :
    first = second := by
  obtain ⟨pointer, ref, found⟩ := left
  obtain ⟨other, otherRef, otherFound⟩ := right
  rw [ref] at otherRef
  cases otherRef
  rw [found] at otherFound
  cases otherFound
  rfl

/-- What leads to a definition does not come back to itself. -/
theorem LeadsTo.not_transGen {document : Document} {item definition : α}
    (leads : document.LeadsTo item definition) : ¬ TransGen document.Points item item := by
  induction leads with
  | self ref =>
      intro cycle
      obtain ⟨_, ⟨_, otherRef, _⟩, _⟩ := TransGen.head'_iff.mp cycle
      rw [ref] at otherRef
      cases otherRef
  | @step item next definition pointer ref found _ ih =>
      intro cycle
      have points : document.Points item next := ⟨pointer, ref, found⟩
      obtain ⟨other, otherPoints, back⟩ := TransGen.head'_iff.mp cycle
      rw [← points.unique otherPoints] at back
      exact ih (TransGen.tail' back points)

/-- Pointers that were followed before an item was reached, no name twice. -/
structure Followed (document : Document) (seen : List String) (item : α) : Prop where
  distinct : (seen.map pointerName).Nodup
  reached : ∀ pointer ∈ seen, ∃ target,
    (Component.definitions document).get? (pointerName pointer) = some target ∧
      ReflTransGen document.Points target item

/-- There are no more followed pointers than definitions. -/
theorem Followed.length_le {document : Document} {seen : List String} {item : α}
    (followed : document.Followed seen item) :
    seen.length ≤ (Component.definitions (α := α) document).length := by
  have known : seen.map pointerName ⊆ (Component.definitions (α := α) document).keys := by
    intro name member
    obtain ⟨pointer, inSeen, rfl⟩ := List.mem_map.mp member
    obtain ⟨target, found, _⟩ := followed.reached pointer inSeen
    exact Entries.mem_keys_iff.mpr ⟨target, found⟩
  simpa [Entries.keys] using (followed.distinct.subperm known).length_le

/-- The next pointer on the way to a definition is a new one.  Behind one that was followed
before, the item would come back to itself. -/
theorem Followed.next {document : Document} {seen : List String} {item next definition : α}
    {pointer : String} (followed : document.Followed seen item)
    (ref : Referable.ref item = some pointer)
    (found : (Component.definitions document).get? (pointerName pointer) = some next)
    (leads : document.LeadsTo next definition) :
    pointer ∉ seen ∧ document.Followed (seen ++ [pointer]) next := by
  have points : document.Points item next := ⟨pointer, ref, found⟩
  have isNew : pointerName pointer ∉ seen.map pointerName := by
    intro member
    obtain ⟨other, inSeen, sameName⟩ := List.mem_map.mp member
    obtain ⟨target, isTarget, reaches⟩ := followed.reached other inSeen
    rw [sameName, found] at isTarget
    cases isTarget
    exact leads.not_transGen (TransGen.tail' reaches points)
  constructor
  · intro inSeen
    exact isNew (List.mem_map_of_mem inSeen)
  constructor
  · rw [List.map_append, List.map_singleton]
    rw [← List.concat_eq_append]
    exact followed.distinct.concat isNew
  · intro other member
    rcases List.mem_append.mp member with inSeen | isLast
    · obtain ⟨target, isTarget, reaches⟩ := followed.reached other inSeen
      exact ⟨target, isTarget, reaches.tail points⟩
    · rw [List.mem_singleton.mp isLast]
      exact ⟨next, found, .refl⟩

variable [IsSection α]

/-- Following pointers arrives at the definition that an item leads to.  No more pointers are
followed than there are definitions, so there is always a step left. -/
theorem followPointers_of_leadsTo {document : Document} {context : Option String} {steps : Nat}
    {seen : List String} {item definition : α} (leads : document.LeadsTo item definition)
    (followed : document.Followed seen item)
    (enough : (Component.definitions (α := α) document).length < steps + seen.length) :
    document.followPointers context steps seen item = .ok definition := by
  induction leads generalizing steps seen with
  | self ref => exact followPointers_of_ref_eq_none document context steps seen ref
  | @step item next definition pointer ref found leads ih =>
      obtain ⟨isNew, followedNext⟩ := followed.next ref found leads
      have few := followedNext.length_le
      rw [List.length_append, List.length_singleton] at few
      obtain ⟨steps, rfl⟩ : ∃ fewer, steps = fewer + 1 := Nat.exists_eq_add_one.mpr (by omega)
      have present : document.components.isNone = false := by
        cases absent : document.components with
        | none => simp [IsSection.definitions_eq_nil document absent] at found
        | some components => rfl
      rw [followPointers, ref]
      simp only [List.contains_iff_mem, isNew, if_false, lookup_eq_ok_iff.mpr ⟨present, found⟩]
      apply ih followedNext
      rw [List.length_append, List.length_singleton]
      omega

/-- An item is resolved to the definition that it leads to. -/
theorem resolve_eq_ok_iff {document : Document} {context : Option String} {item definition : α} :
    document.resolve item context = .ok definition ↔ document.LeadsTo item definition := by
  constructor
  · exact leadsTo_of_resolve
  · intro leads
    have followed : document.Followed [] item := by
      constructor
      · exact List.nodup_nil
      · simp
    exact followPointers_of_leadsTo leads followed (Nat.lt_succ_self _)

omit [IsSection α] in
/-- A definition is no pointer. -/
theorem LeadsTo.ref_eq_none {document : Document} {item definition : α}
    (leads : document.LeadsTo item definition) : Referable.ref definition = none := by
  induction leads with
  | self ref => exact ref
  | step _ _ _ ih => exact ih

/-! ## Two documents -/

/-- Whether an item, or the definition that it leads to, is like another item. -/
def StandsIn (document : Document) (alike : α → α → Prop) (item other : α) : Prop :=
  ∃ middle, (middle = item ∨ document.LeadsTo item middle) ∧ alike middle other

/-- Documents that have items in a section which stand for each other under the same names. -/
structure SectionAgrees (alike : α → α → Prop) (first second : Document) : Prop where
  ref : ∀ {item other : α}, alike item other → Referable.ref item = Referable.ref other
  components : first.components.isNone = second.components.isNone
  length : (Component.definitions (α := α) first).length =
    (Component.definitions (α := α) second).length
  get? : ∀ name, Option.Rel (first.StandsIn alike)
    ((Component.definitions (α := α) first).get? name)
    ((Component.definitions (α := α) second).get? name)

section Agreement

variable {alike : α → α → Prop} {first second : Document}

omit [IsSection α] in
/-- What leads to a definition stands for something that leads to a similar one. -/
theorem SectionAgrees.exists_leadsTo (agrees : SectionAgrees alike first second)
    {item other definition : α} (stands : first.StandsIn alike item other)
    (leads : first.LeadsTo item definition) :
    ∃ result, second.LeadsTo other result ∧ alike definition result := by
  induction leads generalizing other with
  | @self item ref =>
      obtain ⟨middle, isMiddle, similar⟩ := stands
      have same : middle = item := isMiddle.elim id fun leads => leads.unique (.self ref)
      subst same
      exact ⟨other, .self ((agrees.ref similar).symm.trans ref), similar⟩
  | @step item next definition pointer ref found leads ih =>
      obtain ⟨middle, rfl | toMiddle, similar⟩ := stands
      · have both := agrees.get? (pointerName pointer)
        rw [found] at both
        generalize otherFound : (Component.definitions (α := α) second).get? _ = there at both
        cases both with
        | some standsNext =>
            obtain ⟨result, otherLeads, alikeResult⟩ := ih standsNext
            exact ⟨result, .step ((agrees.ref similar).symm.trans ref) otherFound otherLeads,
              alikeResult⟩
      · have same := toMiddle.unique (.step ref found leads)
        subst same
        exact ⟨other, .self ((agrees.ref similar).symm.trans toMiddle.ref_eq_none), similar⟩

omit [IsSection α] in
/-- What leads nowhere is a pointer, and so is what it stands for. -/
theorem SectionAgrees.exists_pointer (agrees : SectionAgrees alike first second)
    {item other : α} (stands : first.StandsIn alike item other)
    (nowhere : ∀ definition, ¬ first.LeadsTo item definition) :
    ∃ pointer, Referable.ref item = some pointer ∧ Referable.ref other = some pointer := by
  have similar : alike item other := by
    obtain ⟨middle, rfl | leads, similar⟩ := stands
    · exact similar
    · exact absurd leads (nowhere middle)
  cases ref : Referable.ref item with
  | none => exact absurd (.self ref) (nowhere item)
  | some pointer => exact ⟨pointer, rfl, (agrees.ref similar).symm.trans ref⟩

omit [IsSection α] in
/-- A pointer leads to items that stand for each other. -/
theorem SectionAgrees.lookup_agree (agrees : SectionAgrees alike first second) (pointer : String)
    (context : Option String) :
    Outcome.Agree (first.StandsIn alike) (first.lookup pointer context)
      (second.lookup pointer context) := by
  unfold lookup lookupIn
  rw [← agrees.components]
  by_cases absent : first.components.isNone = true
  · rw [if_pos absent, if_pos absent]
    exact .error _
  · rw [if_neg absent, if_neg absent]
    have both := agrees.get? (pointerName pointer)
    generalize (Component.definitions (α := α) first).get? _ = here at both
    generalize (Component.definitions (α := α) second).get? _ = there at both
    cases both with
    | none => exact .error _
    | some stands => exact .ok stands

omit [IsSection α] in
/-- What leads nowhere fails in the same way. -/
theorem SectionAgrees.followPointers_eq (agrees : SectionAgrees alike first second)
    {context : Option String} {steps : Nat} {seen : List String} {item other : α}
    (stands : first.StandsIn alike item other)
    (nowhere : ∀ definition, ¬ first.LeadsTo item definition) :
    second.followPointers context steps seen other =
      first.followPointers context steps seen item := by
  induction steps generalizing seen item other with
  | zero =>
      obtain ⟨pointer, ref, otherRef⟩ := agrees.exists_pointer stands nowhere
      rw [followPointers, followPointers, ref, otherRef]
  | succ steps ih =>
      obtain ⟨pointer, ref, otherRef⟩ := agrees.exists_pointer stands nowhere
      rw [followPointers, followPointers, ref, otherRef]
      simp only
      by_cases again : seen.contains pointer = true
      · rw [if_pos again, if_pos again]
      rw [if_neg again, if_neg again]
      have both := agrees.lookup_agree pointer context
      generalize looked : first.lookup (α := α) pointer context = here at both
      generalize second.lookup (α := α) pointer context = there at both
      cases both with
      | error failure => rfl
      | ok standsNext =>
          apply ih standsNext
          intro definition leads
          exact nowhere definition (.step ref (lookup_eq_ok_iff.mp looked).2 leads)

/-- Items that stand for each other are resolved to similar definitions, or fail alike. -/
theorem SectionAgrees.resolve_agree (agrees : SectionAgrees alike first second)
    {item other : α} (stands : first.StandsIn alike item other) (context : Option String) :
    Outcome.Agree alike (first.resolve item context) (second.resolve other context) := by
  by_cases leads : ∃ definition, first.LeadsTo item definition
  · obtain ⟨definition, toDefinition⟩ := leads
    obtain ⟨result, toResult, similar⟩ := agrees.exists_leadsTo stands toDefinition
    rw [resolve_eq_ok_iff.mpr toDefinition, resolve_eq_ok_iff.mpr toResult]
    exact .ok similar
  · have nowhere : ∀ definition, ¬ first.LeadsTo item definition :=
      fun definition toDefinition => leads ⟨definition, toDefinition⟩
    have same : second.resolve other context = first.resolve item context := by
      rw [resolve, resolve, ← agrees.length]
      exact agrees.followPointers_eq stands nowhere
    rw [same]
    cases failed : first.resolve item context with
    | ok definition => exact absurd (leadsTo_of_resolve failed) (nowhere definition)
    | error failure => exact .error failure

end Agreement

/-- Items are resolved alike in documents with the same definitions of their section. -/
theorem resolve_eq_of_definitions {first second : Document}
    (components : first.components.isNone = second.components.isNone)
    (definitions : Component.definitions (α := α) first = Component.definitions second)
    (item : α) (context : Option String) :
    first.resolve item context = second.resolve item context := by
  have agrees : SectionAgrees (@Eq α) first second := by
    constructor
    · exact fun same => congrArg Referable.ref same
    · exact components
    · exact congrArg List.length definitions
    · intro name
      rw [definitions]
      cases (Component.definitions (α := α) second).get? name with
      | none => exact .none
      | some definition => exact .some ⟨definition, Or.inl rfl, rfl⟩
  exact (agrees.resolve_agree ⟨item, Or.inl rfl, rfl⟩ context).eq

end Document

end ApiScaffold
