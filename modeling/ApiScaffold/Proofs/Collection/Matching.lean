import ApiScaffold.Collection.Entries
import Mathlib.Data.List.Forall2

/-!
# Entries that match

Two mappings match if they have the same keys in the same order and related values.
What is found under a key in one of them then has its counterpart in the other.

A key that is new goes to the end, so what a mapping holds stays where it is when
new keys are written.
-/

namespace ApiScaffold.Entries

universe u v w

variable {κ : Type u} {α : Type v} {β : Type w}

/-- The same keys in the same order, with related values. -/
def Matches (related : α → β → Prop) (first : Entries κ α) (second : Entries κ β) : Prop :=
  List.Forall₂ (fun left right => left.1 = right.1 ∧ related left.2 right.2) first second

/-- Matching entries are those with equal keys whose values are related at each place. -/
theorem matches_iff_keys_and_zip {related : α → β → Prop} {first : Entries κ α}
    {second : Entries κ β} :
    first.Matches related second ↔
      first.keys = second.keys ∧ ∀ pair ∈ first.zip second, related pair.1.2 pair.2.2 := by
  constructor
  · intro matching
    induction matching with
    | nil => simp [keys]
    | cons heads _ ih =>
        constructor
        · simp [heads.1, ih.1]
        intro pair member
        rw [List.zip_cons_cons] at member
        rcases List.mem_cons.mp member with rfl | inRest
        · exact heads.2
        · exact ih.2 pair inRest
  · rintro ⟨sameKeys, values⟩
    induction first generalizing second with
    | nil =>
        have empty : second = [] := List.map_eq_nil_iff.mp sameKeys.symm
        subst empty
        exact .nil
    | cons entry rest ih =>
        cases second with
        | nil => simp at sameKeys
        | cons other others =>
            simp only [keys_cons, List.cons.injEq] at sameKeys
            refine .cons ⟨sameKeys.1, values (entry, other) (by simp)⟩ (ih sameKeys.2 ?_)
            intro pair member
            exact values pair (by simp [member])

/-- Mappings that match in the very values are the same. -/
theorem Matches.eq {first second : Entries κ α} (matching : first.Matches Eq second) :
    first = second := by
  induction matching with
  | nil => rfl
  | cons heads _ ih => rw [Prod.ext heads.1 heads.2, ih]

theorem Matches.imp {weak strong : α → β → Prop} {first : Entries κ α} {second : Entries κ β}
    (matching : first.Matches strong second)
    (implies : ∀ left right, strong left right → weak left right) :
    first.Matches weak second :=
  List.Forall₂.imp (fun _ _ heads => ⟨heads.1, implies _ _ heads.2⟩) matching

/-- What holds of all values of the first mapping can be added to the relation. -/
theorem Matches.and_left {related : α → β → Prop} {first : Entries κ α} {second : Entries κ β}
    (matching : first.Matches related second) {holds : α → Prop}
    (each : ∀ entry ∈ first, holds entry.2) :
    first.Matches (fun value other => holds value ∧ related value other) second := by
  apply List.Forall₂.imp _ ((List.forall₂_and_left _ _).mpr ⟨each, matching⟩)
  rintro left right ⟨here, sameKey, inside⟩
  exact ⟨sameKey, here, inside⟩

theorem Matches.flip {related : α → β → Prop} {first : Entries κ α} {second : Entries κ β}
    (matching : first.Matches related second) :
    second.Matches (fun right left => related left right) first :=
  List.Forall₂.flip (List.Forall₂.imp (fun _ _ heads => ⟨heads.1.symm, heads.2⟩) matching)

/-- Entries that match still match when only some keys are kept. -/
theorem Matches.filter {related : α → β → Prop} {first : Entries κ α} {second : Entries κ β}
    (matching : first.Matches related second) (keep : κ → Bool) :
    Matches related (List.filter (fun entry => keep entry.1) first)
      (List.filter (fun entry => keep entry.1) second) := by
  apply List.rel_filter _ matching
  rintro left right ⟨sameKey, _⟩
  simp only [sameKey]

/-- Entries that match still match under other keys, if each side takes the same ones. -/
theorem Matches.rename {ι γ : Type*} {related : α → β → Prop} {weaker : α → γ → Prop}
    {first : Entries κ α} {second : Entries κ β} (matching : first.Matches related second)
    (rename : κ → ι) (entry : κ × β → ι × γ)
    (renames : ∀ other ∈ second, (entry other).1 = rename other.1 ∧
      ∀ value, related value other.2 → weaker value (entry other).2) :
    Matches weaker (first.map fun other => (rename other.1, other.2)) (second.map entry) := by
  induction matching with
  | nil => exact .nil
  | @cons left right _ _ heads _ ih =>
      obtain ⟨sameName, implies⟩ := renames right List.mem_cons_self
      have sameKey : rename left.1 = (entry right).1 := by rw [sameName, heads.1]
      exact .cons ⟨sameKey, implies left.2 heads.2⟩
        (ih fun other member => renames other (List.mem_cons_of_mem right member))

theorem forall₂_trans {first : List α} {second : List β} {γ : Type*} {third : List γ}
    {early : α → β → Prop} {late : β → γ → Prop} {whole : α → γ → Prop}
    (left : List.Forall₂ early first second) (right : List.Forall₂ late second third)
    (compose : ∀ one two three, early one two → late two three → whole one three) :
    List.Forall₂ whole first third := by
  induction left generalizing third with
  | nil =>
      cases right
      exact .nil
  | cons head _ ih =>
      cases right with
      | cons other others => exact .cons (compose _ _ _ head other) (ih others)

/-- Mappings that match a common one match each other. -/
theorem Matches.trans {γ : Type*} {early : α → β → Prop} {late : β → γ → Prop}
    {whole : α → γ → Prop} {first : Entries κ α} {second : Entries κ β} {third : Entries κ γ}
    (left : first.Matches early second) (right : second.Matches late third)
    (compose : ∀ one two three, early one two → late two three → whole one three) :
    first.Matches whole third := by
  apply forall₂_trans left right
  rintro one two three ⟨sameKey, here⟩ ⟨sameOther, there⟩
  exact ⟨sameKey.trans sameOther, compose _ _ _ here there⟩

/-- Mappings that match are both empty or both not. -/
theorem Matches.isEmpty_eq {related : α → β → Prop} {first : Entries κ α}
    {second : Entries κ β} (matching : first.Matches related second) :
    first.isEmpty = second.isEmpty := by
  cases matching with
  | nil => rfl
  | cons => rfl

theorem Matches.keys_eq {related : α → β → Prop} {first : Entries κ α} {second : Entries κ β}
    (matching : first.Matches related second) : first.keys = second.keys :=
  (matches_iff_keys_and_zip.mp matching).1

/-- Whatever is related to a list on its left has its counterpart there. -/
theorem exists_left_of_forall₂ {related : α → β → Prop} {first : List α} {second : List β}
    (pairs : List.Forall₂ related first second) {other : β} (member : other ∈ second) :
    ∃ value ∈ first, related value other := by
  induction pairs with
  | nil => cases member
  | @cons left right _ _ head _ ih =>
      rcases List.mem_cons.mp member with rfl | inRest
      · exact ⟨left, List.mem_cons_self, head⟩
      · obtain ⟨value, inFirst, here⟩ := ih inRest
        exact ⟨value, List.mem_cons_of_mem left inFirst, here⟩

/-- Whatever a list is related to on its right has its counterpart there. -/
theorem exists_right_of_forall₂ {related : α → β → Prop} {first : List α} {second : List β}
    (pairs : List.Forall₂ related first second) {value : α} (member : value ∈ first) :
    ∃ other ∈ second, related value other := by
  have flipped : List.Forall₂ (flip related) second first := List.Forall₂.flip pairs
  exact exists_left_of_forall₂ flipped member

/-- What holds of all on one side holds of all on the other, if it means the same for each pair. -/
theorem forall_mem_iff_of_forall₂ {related : α → β → Prop} {first : List α} {second : List β}
    (pairs : List.Forall₂ related first second) {holds : α → Prop} {other : β → Prop}
    (same : ∀ left right, related left right → (holds left ↔ other right)) :
    (∀ left ∈ first, holds left) ↔ ∀ right ∈ second, other right := by
  induction pairs with
  | nil => simp
  | cons head _ ih => rw [List.forall_mem_cons, List.forall_mem_cons, same _ _ head, ih]

/-- Every entry of the second mapping has its counterpart in the first. -/
theorem Matches.exists_left {related : α → β → Prop} {first : Entries κ α}
    {second : Entries κ β} (matching : first.Matches related second) {entry : κ × β}
    (member : entry ∈ second) : ∃ value, (entry.1, value) ∈ first ∧ related value entry.2 := by
  obtain ⟨⟨key, value⟩, inFirst, sameKey, here⟩ := exists_left_of_forall₂ matching member
  exact ⟨value, sameKey ▸ inFirst, here⟩

/-- Every entry of the first mapping has its counterpart in the second. -/
theorem Matches.exists_right {related : α → β → Prop} {first : Entries κ α}
    {second : Entries κ β} (matching : first.Matches related second) {entry : κ × α}
    (member : entry ∈ first) : ∃ value, (entry.1, value) ∈ second ∧ related entry.2 value :=
  matching.flip.exists_left member

/-- If each pair of matching values has something in common, so have the mappings. -/
theorem Matches.exists_common {γ : Type*} {left : α → γ → Prop} {right : β → γ → Prop}
    {first : Entries κ α} {second : Entries κ β}
    (matching : first.Matches (fun value other => ∃ common, left value common ∧
      right other common) second) :
    ∃ common : Entries κ γ, first.Matches left common ∧ second.Matches right common := by
  induction matching with
  | nil => exact ⟨[], .nil, .nil⟩
  | @cons entry other _ _ heads _ ih =>
      obtain ⟨sameKey, common, inLeft, inRight⟩ := heads
      obtain ⟨rest, restLeft, restRight⟩ := ih
      exact ⟨(entry.1, common) :: rest, .cons ⟨rfl, inLeft⟩ restLeft,
        .cons ⟨sameKey.symm, inRight⟩ restRight⟩

variable [DecidableEq κ]

/-- What is found under a key has its counterpart under the same key. -/
theorem Matches.get?_right {related : α → β → Prop} {first : Entries κ α}
    {second : Entries κ β} (matching : first.Matches related second) {key : κ} {value : α}
    (found : first.get? key = some value) :
    ∃ other, second.get? key = some other ∧ related value other := by
  induction matching with
  | nil => simp at found
  | @cons left right lefts rights heads _ ih =>
      obtain ⟨leftKey, leftValue⟩ := left
      obtain ⟨rightKey, rightValue⟩ := right
      obtain ⟨sameKey, relatedValues⟩ := heads
      simp only at sameKey relatedValues
      subst sameKey
      by_cases equal : leftKey = key
      · simp only [get?, equal, if_true, Option.some.injEq] at found ⊢
        exact ⟨rightValue, rfl, found ▸ relatedValues⟩
      · simp only [get?, equal, if_false] at found ⊢
        exact ih found

/-- Writing related values under one key keeps mappings matching. -/
theorem Matches.put {related : α → β → Prop} {first : Entries κ α} {second : Entries κ β}
    (matching : first.Matches related second) (key : κ) {value : α} {other : β}
    (heads : related value other) :
    (first.put key value).Matches related (second.put key other) := by
  induction matching with
  | nil => exact .cons ⟨rfl, heads⟩ .nil
  | @cons left right lefts rights pair rest ih =>
      obtain ⟨leftKey, leftValue⟩ := left
      obtain ⟨rightKey, rightValue⟩ := right
      obtain ⟨sameKey, relatedValues⟩ := pair
      simp only at sameKey relatedValues
      subst sameKey
      by_cases equal : leftKey = key
      · simp only [Entries.put, equal, if_true]
        exact .cons ⟨rfl, heads⟩ rest
      · simp only [Entries.put, equal, if_false]
        exact .cons ⟨rfl, relatedValues⟩ ih

/-- Mappings that are written from matching entries match. -/
theorem Matches.putAll {related : α → β → Prop} {first : Entries κ α} {second : Entries κ β}
    (matching : first.Matches related second) {additions : List (κ × α)}
    {others : List (κ × β)} (added : Matches related additions others) :
    (first.putAll additions).Matches related (second.putAll others) := by
  induction added generalizing first second with
  | nil => exact matching
  | @cons left right lefts rights pair _ ih =>
      obtain ⟨leftKey, leftValue⟩ := left
      obtain ⟨rightKey, rightValue⟩ := right
      obtain ⟨sameKey, relatedValues⟩ := pair
      simp only at sameKey relatedValues
      subst sameKey
      exact ih (matching.put leftKey relatedValues)

theorem Matches.ofList {related : α → β → Prop} {additions : List (κ × α)}
    {others : List (κ × β)} (added : Matches related additions others) :
    (Entries.ofList additions).Matches related (Entries.ofList others) :=
  Matches.putAll .nil added

/-- A new key goes to the end. -/
theorem put_eq_append {entries : Entries κ α} {key : κ} (value : α)
    (absent : key ∉ entries.keys) : entries.put key value = entries ++ [(key, value)] := by
  induction entries with
  | nil => rfl
  | cons entry rest ih =>
      simp only [keys_cons, List.mem_cons, not_or] at absent
      simp [put, Ne.symm absent.1, ih absent.2]

/-- Entries with new and distinct keys go to the end as they are. -/
theorem putAll_eq_append {entries additions : Entries κ α}
    (distinct : (entries ++ additions).keys.Nodup) :
    entries.putAll additions = entries ++ additions := by
  induction additions generalizing entries with
  | nil => exact (List.append_nil entries).symm
  | cons addition rest ih =>
      obtain ⟨key, value⟩ := addition
      have absent : key ∉ entries.keys := by
        intro member
        rw [keys, List.map_append, List.nodup_append] at distinct
        exact distinct.2.2 key member key (by simp) rfl
      have again : entries.putAll ((key, value) :: rest) =
          (entries.put key value).putAll rest := rfl
      rw [again, put_eq_append value absent, ih (by simpa using distinct), List.append_assoc]
      rfl

/-- What is found in a row of two mappings is found in the first, or else in the second. -/
theorem get?_append (first second : Entries κ α) (key : κ) :
    (first ++ second).get? key = (first.get? key).or (second.get? key) := by
  induction first with
  | nil => rfl
  | cons entry rest ih =>
      by_cases equal : entry.1 = key
      · simp [get?, equal]
      · simp [get?, equal, ih]

/-- Writing an entry changes nothing else: every entry is an old one or the new one. -/
theorem mem_of_mem_put {entries : Entries κ α} {key : κ} {value : α} {entry : κ × α}
    (member : entry ∈ entries.put key value) : entry ∈ entries ∨ entry = (key, value) := by
  induction entries with
  | nil => exact Or.inr (by simpa [put] using member)
  | cons first rest ih =>
      by_cases equal : first.1 = key
      · simp only [put, equal, if_true, List.mem_cons] at member
        rcases member with rfl | inRest
        · exact Or.inr rfl
        · exact Or.inl (List.mem_cons_of_mem first inRest)
      · simp only [put, equal, if_false, List.mem_cons] at member
        rcases member with rfl | inRest
        · exact Or.inl List.mem_cons_self
        · exact (ih inRest).imp_left (List.mem_cons_of_mem first)

/-- Every entry of a mapping is one of those that were written. -/
theorem mem_of_mem_putAll {entries : Entries κ α} {additions : List (κ × α)} {entry : κ × α}
    (member : entry ∈ entries.putAll additions) : entry ∈ entries ∨ entry ∈ additions := by
  induction additions generalizing entries with
  | nil => exact Or.inl member
  | cons addition rest ih =>
      rcases ih member with inPut | inRest
      · rcases mem_of_mem_put inPut with old | rfl
        · exact Or.inl old
        · exact Or.inr List.mem_cons_self
      · exact Or.inr (List.mem_cons_of_mem addition inRest)

theorem mem_of_mem_ofList {additions : List (κ × α)} {entry : κ × α}
    (member : entry ∈ Entries.ofList additions) : entry ∈ additions :=
  (mem_of_mem_putAll member).resolve_left (by simp)

end ApiScaffold.Entries
