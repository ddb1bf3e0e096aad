import ApiScaffold.Proofs.Collection.Matching
import Mathlib.Data.List.Basic

/-!
# Entries in another order

Two mappings are rearranged if the entries of one match those of the other once they are moved.
Look-ups by key and sorting by key do not see the difference, as long as no key occurs twice.
-/

namespace ApiScaffold.Entries

variable {κ α β : Type*}

/-- Related values under the same keys, which may stand in another order. -/
def Rearranged (related : α → β → Prop) (first : Entries κ α) (second : Entries κ β) : Prop :=
  first.keys.Nodup ∧ ∃ moved : Entries κ α, first.Perm moved ∧ moved.Matches related second

theorem Rearranged.nil {related : α → β → Prop} :
    Rearranged related ([] : Entries κ α) ([] : Entries κ β) :=
  ⟨List.nodup_nil, [], .refl [], .nil⟩

theorem Rearranged.length_eq {related : α → β → Prop} {first : Entries κ α}
    {second : Entries κ β} (rearranged : first.Rearranged related second) :
    first.length = second.length := by
  obtain ⟨_, moved, perm, matching⟩ := rearranged
  rw [perm.length_eq, List.Forall₂.length_eq matching]

/-- Rearranged mappings are both empty or both not. -/
theorem Rearranged.isEmpty_eq {related : α → β → Prop} {first : Entries κ α}
    {second : Entries κ β} (rearranged : first.Rearranged related second) :
    first.isEmpty = second.isEmpty := by
  obtain ⟨_, moved, perm, matching⟩ := rearranged
  rw [perm.isEmpty_eq, matching.isEmpty_eq]

/-! ## Look-ups -/

section Lookup

variable [DecidableEq κ]

theorem get?_eq_some_iff {entries : Entries κ α} (distinct : entries.keys.Nodup) {key : κ}
    {value : α} : entries.get? key = some value ↔ (key, value) ∈ entries := by
  constructor
  · exact mem_of_get?
  · exact get?_eq_some_of_mem distinct

/-- Entries in another order are found under the same keys. -/
theorem get?_eq_of_perm {entries moved : Entries κ α} (distinct : entries.keys.Nodup)
    (perm : entries.Perm moved) (key : κ) : entries.get? key = moved.get? key := by
  have distinctMoved : moved.keys.Nodup := (perm.map Prod.fst).nodup distinct
  apply Option.ext
  intro value
  rw [get?_eq_some_iff distinct, get?_eq_some_iff distinctMoved]
  exact perm.mem_iff

/-- Under each key matching entries have related values, or both have none. -/
theorem Matches.get?_rel {related : α → β → Prop} {first : Entries κ α} {second : Entries κ β}
    (matching : first.Matches related second) (key : κ) :
    Option.Rel related (first.get? key) (second.get? key) := by
  cases found : first.get? key with
  | none =>
      rw [get?_eq_none_iff, matching.keys_eq, ← get?_eq_none_iff] at found
      rw [found]
      exact .none
  | some value =>
      obtain ⟨other, otherFound, here⟩ := matching.get?_right found
      rw [otherFound]
      exact .some here

/-- Under each key rearranged entries have related values, or both have none. -/
theorem Rearranged.get?_rel {related : α → β → Prop} {first : Entries κ α}
    {second : Entries κ β} (rearranged : first.Rearranged related second) (key : κ) :
    Option.Rel related (first.get? key) (second.get? key) := by
  obtain ⟨distinct, moved, perm, matching⟩ := rearranged
  rw [get?_eq_of_perm distinct perm]
  exact matching.get?_rel key

end Lookup

/-! ## Sorting -/

/-- Entries in the order of their keys. -/
def sorted (entries : Entries String α) : Entries String α :=
  entries.mergeSort fun first second => decide (first.1 ≤ second.1)

theorem pairwise_sorted (entries : Entries String α) :
    entries.sorted.Pairwise fun first second => first.1 ≤ second.1 := by
  have pairs := @List.pairwise_mergeSort (String × α)
    (fun first second => decide (first.1 ≤ second.1))
    (by simpa using fun first _ second _ third _ => String.le_trans)
    (by simpa using fun first _ second _ => String.le_total first second) entries
  simpa [sorted] using pairs

/-- Entries in another order are sorted in the same way. -/
theorem sorted_eq_of_perm {entries moved : Entries String α} (distinct : entries.keys.Nodup)
    (perm : entries.Perm moved) : entries.sorted = moved.sorted := by
  have back := List.mergeSort_perm entries fun first second => decide (first.1 ≤ second.1)
  have backMoved := List.mergeSort_perm moved fun first second => decide (first.1 ≤ second.1)
  apply List.Perm.eq_of_pairwise _ entries.pairwise_sorted moved.pairwise_sorted
  · exact back.trans (perm.trans backMoved.symm)
  · rintro ⟨key, value⟩ ⟨otherKey, other⟩ member otherMember before after
    obtain rfl : key = otherKey := String.le_antisymm before after
    have found := get?_eq_some_of_mem distinct (back.mem_iff.mp member)
    have otherFound := get?_eq_some_of_mem distinct
      (perm.mem_iff.mpr (backMoved.mem_iff.mp otherMember))
    rw [found] at otherFound
    cases otherFound
    rfl

/-- Entries that match still match after sorting. -/
theorem Matches.sorted {related : α → β → Prop} {first : Entries String α}
    {second : Entries String β} (matching : first.Matches related second) :
    first.sorted.Matches related second.sorted := by
  obtain ⟨sameLength, pairs⟩ := List.forall₂_iff_zip.mp matching
  have left := @List.map_fst_zip _ _ first second (Nat.le_of_eq sameLength)
  have right := @List.map_snd_zip _ _ first second (Nat.le_of_eq sameLength.symm)
  let zipped := (first.zip second).mergeSort fun one two => decide (one.1.1 ≤ two.1.1)
  have sortedLeft : zipped.map Prod.fst = first.sorted := by
    rw [List.map_mergeSort, left, Entries.sorted]
    intro one _ two _
    rfl
  have sortedRight : zipped.map Prod.snd = second.sorted := by
    rw [List.map_mergeSort, right, Entries.sorted]
    intro one member two otherMember
    rw [(pairs member).1, (pairs otherMember).1]
  rw [← sortedLeft, ← sortedRight, Matches, List.forall₂_map_left_iff,
    List.forall₂_map_right_iff, List.forall₂_same]
  intro pair member
  exact pairs ((List.mergeSort_perm _ _).mem_iff.mp member)

/-- Rearranged entries match after sorting. -/
theorem Rearranged.sorted {related : α → β → Prop} {first : Entries String α}
    {second : Entries String β} (rearranged : first.Rearranged related second) :
    first.sorted.Matches related second.sorted := by
  obtain ⟨distinct, moved, perm, matching⟩ := rearranged
  rw [sorted_eq_of_perm distinct perm]
  exact matching.sorted

end ApiScaffold.Entries
