import ApiScaffold.Collection.Entries
import Mathlib.Data.List.Induction
import Mathlib.Data.List.Perm.Subperm

/-!
# What is written last

Entries that are written one after the other leave each key where it was first written, with the
value that was last written under it.

Leaving out keys, or giving them other names that are different for different keys, can be done
before writing as well as afterwards.
-/

namespace ApiScaffold.Entries

universe u v w

variable {κ : Type u} {ι : Type w} {α : Type v}

/-- Whether a value is the last one that is written under a key. -/
def LastWritten (additions : List (κ × α)) (key : κ) (value : α) : Prop :=
  ∃ before after, additions = before ++ (key, value) :: after ∧ key ∉ keys after

theorem not_lastWritten_nil (key : κ) (value : α) : ¬ LastWritten [] key value := by
  rintro ⟨before, after, impossible, _⟩
  simp at impossible

/-- Among items that are written as entries, the last one under a key is an item after which the
key does not come again. -/
theorem lastWritten_map_iff {σ : Type*} {entry : σ → κ × α} {items : List σ} {key : κ}
    {value : α} :
    LastWritten (items.map entry) key value ↔
      ∃ before item after, items = before ++ item :: after ∧ entry item = (key, value) ∧
        key ∉ keys (after.map entry) := by
  constructor
  · rintro ⟨before, after, split, absent⟩
    rcases List.map_eq_append_iff.mp split with ⟨earlier, rest, rfl, rfl, isRest⟩
    rcases List.map_eq_cons_iff.mp isRest with ⟨item, later, rfl, isEntry, rfl⟩
    exact ⟨earlier, item, later, rfl, isEntry, absent⟩
  · rintro ⟨before, item, after, rfl, isEntry, absent⟩
    exact ⟨before.map entry, after.map entry, by simp [isEntry], absent⟩

/-- What is added at the end is written last; anything else is if it has another key. -/
theorem lastWritten_concat_iff {additions : List (κ × α)} {last : κ × α} {key : κ} {value : α} :
    LastWritten (additions ++ [last]) key value ↔
      last = (key, value) ∨ key ≠ last.1 ∧ LastWritten additions key value := by
  constructor
  · rintro ⟨before, after, split, absent⟩
    rcases List.eq_nil_or_concat after with rfl | ⟨others, final, rfl⟩
    · exact Or.inl (List.append_inj_right' split rfl |> List.singleton_inj.mp)
    · rw [List.concat_eq_append, ← List.cons_append, ← List.append_assoc] at split
      have isFinal : last = final := List.singleton_inj.mp (List.append_inj_right' split rfl)
      subst isFinal
      simp only [keys, List.concat_eq_append, List.map_append, List.map_singleton,
        List.mem_append, List.mem_singleton, not_or] at absent
      exact Or.inr ⟨absent.2, before, others, List.append_inj_left' split rfl, absent.1⟩
  · rintro (rfl | ⟨different, before, after, rfl, absent⟩)
    · exact ⟨additions, [], rfl, by simp⟩
    · refine ⟨before, after ++ [last], by simp, ?_⟩
      simp only [keys, List.map_append, List.map_singleton, List.mem_append, List.mem_singleton,
        not_or]
      exact ⟨absent, different⟩

variable [DecidableEq κ]

theorem ofList_concat (additions : List (κ × α)) (last : κ × α) :
    ofList (additions ++ [last]) = (ofList additions).put last.1 last.2 := by
  simp [ofList, putAll]

/-- What is found under a key is what was last written there. -/
theorem get?_ofList_eq_some_iff {additions : List (κ × α)} {key : κ} {value : α} :
    (ofList additions).get? key = some value ↔ LastWritten additions key value := by
  induction additions using List.reverseRecOn with
  | nil =>
      constructor
      · intro impossible
        cases impossible
      · intro written
        exact absurd written (not_lastWritten_nil key value)
  | append_singleton additions last ih =>
      rcases last with ⟨other, replacement⟩
      rw [ofList_concat, lastWritten_concat_iff]
      by_cases same : other = key
      · subst same
        simp [get?_put_self]
      · rw [get?_put_of_ne _ _ same, ih]
        simp [same, Ne.symm same]

/-- The entries that are left are those that were last written under their keys. -/
theorem mem_ofList_iff {additions : List (κ × α)} {key : κ} {value : α} :
    (key, value) ∈ ofList additions ↔ LastWritten additions key value := by
  rw [← get?_ofList_eq_some_iff]
  exact ⟨get?_eq_some_of_mem (nodup_keys_ofList additions), mem_of_get?⟩

/-! ## Order -/

/-- Keys are where they were first written. -/
theorem keys_ofList (additions : List (κ × α)) :
    (ofList additions).keys = (keys additions).eraseDups := by
  induction additions using List.reverseRecOn with
  | nil => rfl
  | append_singleton additions last ih =>
      have split : keys (additions ++ [last]) = keys additions ++ [last.1] := by simp [keys]
      rw [ofList_concat, keys_put, ih, split, List.eraseDups_append]
      by_cases member : last.1 ∈ keys additions <;>
        simp [List.mem_eraseDups, List.removeAll, List.eraseDups_cons, member]

/-- No item is left twice when repetitions are erased. -/
theorem nodup_eraseDups (items : List κ) : items.eraseDups.Nodup := by
  have distinct := nodup_keys_ofList (items.map fun item => (item, ()))
  rw [keys_ofList, keys, List.map_map] at distinct
  simpa [Function.comp_def] using distinct

/-- What is left when repetitions are erased stays in its order. -/
theorem eraseDups_sublist (items : List κ) : items.eraseDups.Sublist items := by
  induction size : items.length using Nat.strongRecOn generalizing items with
  | _ size ih =>
    cases items with
    | nil => exact List.Sublist.refl _
    | cons first rest =>
        have kept := @List.filter_sublist _ (fun item => !item == first) rest
        rw [List.eraseDups_cons]
        refine List.Sublist.cons_cons first ((ih _ ?_ _ rfl).trans kept)
        rw [← size, List.length_cons]
        exact Nat.lt_succ_of_le kept.length_le

/-- Distinct items are what is left of a list with the same members. -/
theorem length_eraseDups {items distinct : List κ} (nodup : distinct.Nodup)
    (same : ∀ item, item ∈ items ↔ item ∈ distinct) :
    items.eraseDups.length = distinct.length := by
  apply List.Perm.length_eq
  rw [List.perm_ext_iff_of_nodup (nodup_eraseDups items) nodup]
  intro item
  rw [List.mem_eraseDups, same]

/-- As many items are left as there were exactly if there were no repetitions. -/
theorem length_eraseDups_eq_iff {items : List κ} :
    items.eraseDups.length = items.length ↔ items.Nodup := by
  constructor
  · intro sameLength
    have within : items.eraseDups.Subperm items :=
      (nodup_eraseDups items).subperm fun item member => List.mem_eraseDups.mp member
    have rearranged := within.perm_of_length_le (Nat.le_of_eq sameLength.symm)
    exact rearranged.nodup_iff.mp (nodup_eraseDups items)
  · intro nodup
    exact length_eraseDups nodup fun _ => Iff.rfl

/-! ## Leaving out and renaming keys -/

theorem filter_put (kept : κ → Bool) (entries : Entries κ α) (key : κ) (value : α) :
    (entries.put key value).filter (fun entry => kept entry.1) =
      if kept key then Entries.put (entries.filter fun entry => kept entry.1) key value
      else entries.filter fun entry => kept entry.1 := by
  induction entries with
  | nil => simp [put, List.filter_cons]
  | cons entry rest ih =>
      rcases entry with ⟨first, old⟩
      by_cases same : first = key
      · subst same
        by_cases isKept : kept first = true <;> simp [put, isKept]
      · by_cases isKept : kept first = true <;> simp [put, same, isKept, ih]
        split <;> rfl

/-- Keys can be left out before writing. -/
theorem filter_ofList (kept : κ → Bool) (additions : List (κ × α)) :
    (ofList additions).filter (fun entry => kept entry.1) =
      ofList (additions.filter fun entry => kept entry.1) := by
  induction additions using List.reverseRecOn with
  | nil => rfl
  | append_singleton additions last ih =>
      rw [ofList_concat, filter_put, ih, List.filter_append]
      by_cases isKept : kept last.1 = true
      · rw [if_pos isKept, List.filter_cons_of_pos (by exact isKept), List.filter_nil,
          ofList_concat]
      · rw [if_neg isKept, List.filter_cons_of_neg (by exact isKept), List.filter_nil,
          List.append_nil]

variable [DecidableEq ι]

theorem map_put {rename : κ → ι} {entries : Entries κ α} {key : κ}
    (different : ∀ other ∈ entries.keys, rename other = rename key → other = key) (value : α) :
    (entries.put key value).map (fun entry => (rename entry.1, entry.2)) =
      Entries.put (entries.map fun entry => (rename entry.1, entry.2)) (rename key) value := by
  induction entries with
  | nil => rfl
  | cons entry rest ih =>
      rcases entry with ⟨first, old⟩
      by_cases same : first = key
      · simp [put, same]
      · have renamed : rename first ≠ rename key := fun equal =>
          same (different first List.mem_cons_self equal)
        have later := ih fun other member => different other (List.mem_cons_of_mem first member)
        simp [put, same, renamed, later]

/-- Keys can be renamed before writing, if different keys get different names. -/
theorem map_ofList (rename : κ → ι) (additions : List (κ × α))
    (different : ∀ key ∈ keys additions, ∀ other ∈ keys additions,
      rename key = rename other → key = other) :
    (ofList additions).map (fun entry => (rename entry.1, entry.2)) =
      ofList (additions.map fun entry => (rename entry.1, entry.2)) := by
  induction additions using List.reverseRecOn with
  | nil => rfl
  | append_singleton additions last ih =>
      have split : keys (additions ++ [last]) = keys additions ++ [last.1] := by simp [keys]
      rw [split] at different
      rw [ofList_concat, List.map_append, List.map_singleton, ofList_concat, map_put, ih]
      · intro key isKey other isOther
        exact different key (List.mem_append_left _ isKey) other (List.mem_append_left _ isOther)
      · intro other member
        rw [keys_ofList, List.mem_eraseDups] at member
        exact different other (List.mem_append_left _ member) last.1 (by simp)

end ApiScaffold.Entries
