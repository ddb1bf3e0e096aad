import ApiScaffold.Document.Reference

/-!
# Definitions that pointers lead to

`Document.definition?` gives what an item stands for.  A context only matters for what a
failure says, so resolving an item in any context finds this definition.

`Document.LeadsTo` says the same without a bound on the number of steps: an item leads to
at most one definition, and what it points to leads to the same one.
-/

namespace ApiScaffold.Document

variable {α : Type} [Referable α]

/-- The definition that an item stands for, if its pointers lead to one. -/
def definition? (document : Document) (item : α) : Option α :=
  (document.resolve item none).toOption

/-- An item without a pointer leads to itself, any other one to where its pointer leads. -/
inductive LeadsTo (document : Document) : α → α → Prop
  | self {item : α} (ref : Referable.ref item = none) : LeadsTo document item item
  | step {item next definition : α} {pointer : String} (ref : Referable.ref item = some pointer)
      (found : (Component.definitions document).get? (pointerName pointer) = some next)
      (leads : LeadsTo document next definition) : LeadsTo document item definition

/-- An item leads to at most one definition. -/
theorem LeadsTo.unique {document : Document} {item first second : α}
    (left : document.LeadsTo item first) (right : document.LeadsTo item second) :
    first = second := by
  induction left with
  | self ref =>
      cases right with
      | self => rfl
      | step otherRef => rw [ref] at otherRef; cases otherRef
  | step ref found _ ih =>
      cases right with
      | self otherRef => rw [ref] at otherRef; cases otherRef
      | step otherRef otherFound leads =>
          rw [ref] at otherRef
          cases otherRef
          rw [found] at otherFound
          cases otherFound
          exact ih leads

theorem lookup_eq_ok_iff {document : Document} {pointer : String} {context : Option String}
    {definition : α} :
    document.lookup pointer context = .ok definition ↔
      document.components.isNone = false ∧
        (Component.definitions document).get? (pointerName pointer) = some definition := by
  unfold lookup lookupIn
  by_cases absent : document.components.isNone = true
  · simp [absent]
  · cases found : (Component.definitions (α := α) document).get? (pointerName pointer) with
    | none => simp [absent]
    | some other => simp [absent]

/-- An item without a pointer is where following pointers ends. -/
theorem followPointers_of_ref_eq_none (document : Document) (context : Option String)
    (steps : Nat) (seen : List String) {item : α} (ref : Referable.ref item = none) :
    document.followPointers context steps seen item = .ok item := by
  cases steps with
  | zero => rw [followPointers, ref]
  | succ steps => rw [followPointers, ref]

/-- Following pointers comes to the definition that an item leads to, in any context. -/
theorem followPointers_spec {document : Document} {context : Option String} {steps : Nat}
    {seen : List String} {item definition : α}
    (followed : document.followPointers context steps seen item = .ok definition) :
    document.LeadsTo item definition ∧
      document.followPointers none steps seen item = .ok definition := by
  induction steps generalizing seen item with
  | zero =>
      cases ref : Referable.ref item with
      | none =>
          rw [followPointers_of_ref_eq_none document _ _ _ ref] at followed ⊢
          cases followed
          exact ⟨.self ref, rfl⟩
      | some pointer =>
          rw [followPointers, ref] at followed
          simp at followed
  | succ steps ih =>
      cases ref : Referable.ref item with
      | none =>
          rw [followPointers_of_ref_eq_none document _ _ _ ref] at followed ⊢
          cases followed
          exact ⟨.self ref, rfl⟩
      | some pointer =>
          rw [followPointers, ref] at followed ⊢
          simp only at followed ⊢
          by_cases again : seen.contains pointer = true
          · rw [if_pos again] at followed
            cases followed
          · rw [if_neg again] at followed ⊢
            cases looked : document.lookup (α := α) pointer context with
            | error failure =>
                rw [looked] at followed
                cases followed
            | ok next =>
                rw [looked] at followed
                obtain ⟨leads, same⟩ := ih followed
                have found := lookup_eq_ok_iff.mp looked
                rw [lookup_eq_ok_iff.mpr found]
                exact ⟨.step ref found.2 leads, same⟩

theorem leadsTo_of_resolve {document : Document} {item definition : α} {context : Option String}
    (resolved : document.resolve item context = .ok definition) :
    document.LeadsTo item definition :=
  (followPointers_spec resolved).1

theorem definition?_of_resolve {document : Document} {item definition : α}
    {context : Option String} (resolved : document.resolve item context = .ok definition) :
    document.definition? item = some definition := by
  have same : document.resolve item none = .ok definition := (followPointers_spec resolved).2
  rw [definition?, same]
  rfl

theorem leadsTo_of_definition? {document : Document} {item definition : α}
    (defined : document.definition? item = some definition) :
    document.LeadsTo item definition := by
  unfold definition? at defined
  cases resolved : document.resolve item none with
  | error failure =>
      rw [resolved] at defined
      cases defined
  | ok other =>
      rw [resolved] at defined
      cases defined
      exact leadsTo_of_resolve resolved

/-- What an item points to stands for the same definition. -/
theorem definition?_eq_of_ref {document : Document} {item next first second : α}
    {pointer : String} (ref : Referable.ref item = some pointer)
    (found : (Component.definitions document).get? (pointerName pointer) = some next)
    (here : document.definition? item = some first)
    (there : document.definition? next = some second) : first = second :=
  (leadsTo_of_definition? here).unique (.step ref found (leadsTo_of_definition? there))

/-- An item without a pointer stands for itself. -/
theorem definition?_of_ref_eq_none (document : Document) (item : α)
    (ref : Referable.ref item = none) : document.definition? item = some item := by
  rw [definition?, resolve, followPointers_of_ref_eq_none document _ _ _ ref]
  rfl

end ApiScaffold.Document
