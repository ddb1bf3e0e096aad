import Mathlib.Data.Option.Basic

/-!
# Values that may be absent

Two values that may be absent are related if both are absent, or if both are there and related.
-/

namespace Option.Rel

universe u v w x

variable {α : Type u} {β : Type v} {γ : Type w} {δ : Type x}

theorem exists_left {relation : α → β → Prop} {item : Option α} {other : Option β}
    (related : Option.Rel relation item other) :
    ∀ content ∈ other, ∃ value ∈ item, relation value content := by
  cases related with
  | none => simp
  | some here =>
      intro content member
      cases member
      exact ⟨_, rfl, here⟩

theorem flip {relation : α → β → Prop} {item : Option α} {other : Option β}
    (related : Option.Rel relation item other) :
    Option.Rel (fun content value => relation value content) other item := by
  cases related with
  | some here => exact .some here
  | none => exact .none

theorem imp {weak strong : α → β → Prop} {item : Option α} {other : Option β}
    (related : Option.Rel strong item other)
    (implies : ∀ value content, strong value content → weak value content) :
    Option.Rel weak item other := by
  cases related with
  | some here => exact .some (implies _ _ here)
  | none => exact .none

theorem and_left {relation : α → β → Prop} {item : Option α} {other : Option β}
    (related : Option.Rel relation item other) {holds : α → Prop}
    (each : ∀ value ∈ item, holds value) :
    Option.Rel (fun value content => holds value ∧ relation value content) item other := by
  cases related with
  | some here => exact .some ⟨each _ rfl, here⟩
  | none => exact .none

theorem trans {early : α → β → Prop} {late : β → γ → Prop} {whole : α → γ → Prop}
    {one : Option α} {two : Option β} {three : Option γ} (left : Option.Rel early one two)
    (right : Option.Rel late two three)
    (compose : ∀ first second third, early first second → late second third →
      whole first third) : Option.Rel whole one three := by
  cases left with
  | none =>
      cases right
      exact .none
  | some here =>
      cases right with
      | some there => exact .some (compose _ _ _ here there)

/-- Related values are both absent or both there. -/
theorem isNone_eq {relation : α → β → Prop} {item : Option α} {other : Option β}
    (related : Option.Rel relation item other) : item.isNone = other.isNone := by
  cases related with
  | none => rfl
  | some _ => rfl

/-- What is made of related values is related if it is for all values that are there. -/
theorem map {relation : α → β → Prop} {inside : γ → δ → Prop} {item : Option α}
    {other : Option β} {make : α → γ} {otherMake : β → δ} (related : Option.Rel relation item other)
    (made : ∀ value content, relation value content → inside (make value) (otherMake content)) :
    Option.Rel inside (item.map make) (other.map otherMake) := by
  cases related with
  | none => exact .none
  | some here => exact .some (made _ _ here)

/-- Parts of related values are related if they are for all values that are there. -/
theorem bind {relation : α → β → Prop} {inside : γ → δ → Prop} {item : Option α}
    {other : Option β} {part : α → Option γ} {otherPart : β → Option δ}
    (related : Option.Rel relation item other)
    (parts : ∀ value content, relation value content →
      Option.Rel inside (part value) (otherPart content)) :
    Option.Rel inside (item.bind part) (other.bind otherPart) := by
  cases related with
  | none => exact .none
  | some here => exact parts _ _ here

/-- Parts that are the same in related values are the same. -/
theorem bind_eq {relation : α → β → Prop} {item : Option α} {other : Option β}
    {part : α → Option γ} {otherPart : β → Option γ} (related : Option.Rel relation item other)
    (parts : ∀ value content, relation value content → part value = otherPart content) :
    item.bind part = other.bind otherPart := by
  cases related with
  | none => rfl
  | some here => exact parts _ _ here

/-- Related values are related with the same default, if the default is to itself. -/
theorem getD {relation : α → β → Prop} {item : Option α} {other : Option β}
    (related : Option.Rel relation item other) {absent : α} {missing : β}
    (defaults : relation absent missing) :
    relation (item.getD absent) (other.getD missing) := by
  cases related with
  | none => exact defaults
  | some here => exact here

end Option.Rel
