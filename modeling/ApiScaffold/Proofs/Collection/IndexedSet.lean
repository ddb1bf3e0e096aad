import ApiScaffold.Collection.SetStore

/-!
# Sets with an index are lists without repetitions

An indexed set is exact if no item is listed twice and the index has each item at its position, and
nothing else.  Adding an item and taking the last one away keep it exact, and do the same as with an
ordered set.  Whatever is asked of an exact set can be read off its list.
-/

namespace ApiScaffold

variable {α : Type} [DecidableEq α]

namespace Entries

theorem get?_erase_self (entries : Entries α Nat) (key : α) :
    (entries.erase key).get? key = none := by
  rw [get?_eq_none_iff]
  simp [keys, erase]

theorem get?_erase_of_ne (entries : Entries α Nat) {key other : α} (different : other ≠ key) :
    (entries.erase key).get? other = entries.get? other := by
  induction entries with
  | nil => rfl
  | cons entry rest ih =>
      obtain ⟨first, value⟩ := entry
      rw [erase, List.filter_cons, ← erase]
      by_cases equal : first = key
      · have passedOver : first ≠ other := fun same => different (same.symm.trans equal)
        rw [if_neg (by simpa using equal), ih, get?, if_neg passedOver]
      · rw [if_pos (by simpa using equal), get?, get?, ih]

end Entries

namespace IndexedSet

/-- No item is listed twice, and the index has each item at its position. -/
structure IsExact (set : IndexedSet α) : Prop where
  nodup : set.items.Nodup
  position_iff : ∀ item position,
    set.positions.get? item = some position ↔ set.items[position]? = some item

variable {set : IndexedSet α}

/-! ## Questions -/

/-- The index has the items of the list, and no others. -/
theorem IsExact.hasKey_iff (exact : set.IsExact) (item : α) :
    set.positions.hasKey item = true ↔ item ∈ set.items := by
  rw [Entries.hasKey_eq_true_iff, Entries.mem_keys_iff, List.mem_iff_getElem?]
  exact exists_congr fun position => exact.position_iff item position

theorem IsExact.contains_eq (exact : set.IsExact) (item : α) :
    set.contains item = decide (item ∈ set.items) := by
  rw [Bool.eq_iff_iff, decide_eq_true_eq]
  exact exact.hasKey_iff item

/-- The index gives the position in the list. -/
theorem IsExact.index?_eq (exact : set.IsExact) (item : α) :
    set.index? item = set.items.idxOf? item := by
  have listed := OrderedSet.index?_eq_some_iff ⟨set.items, exact.nodup⟩ item
  refine Option.ext fun position => ?_
  rw [index?, exact.position_iff]
  exact (listed position).symm

/-! ## Changes -/

omit [DecidableEq α] in
/-- Positions in a list with one more item at its end. -/
theorem getElem?_concat_eq_some_iff (items : List α) (last item : α) (position : Nat) :
    (items ++ [last])[position]? = some item ↔
      items[position]? = some item ∨ position = items.length ∧ last = item := by
  rcases Nat.lt_trichotomy position items.length with before | rfl | behind
  · rw [List.getElem?_append_left before]
    simp [Nat.ne_of_lt before]
  · simp
  · rw [List.getElem?_eq_none (by simpa using Nat.succ_le_of_lt behind),
      List.getElem?_eq_none (Nat.le_of_lt behind)]
    simp [Nat.ne_of_gt behind]

theorem isExact_empty : (empty : IndexedSet α).IsExact where
  nodup := List.nodup_nil
  position_iff := by simp [empty]

/-- Adding an item answers whether it was absent, and appends it in this case. -/
theorem IsExact.add_eq (exact : set.IsExact) (item : α) :
    set.add item = if item ∈ set.items then (false, set)
      else (true, ⟨set.items ++ [item], set.positions.put item set.items.length⟩) := by
  by_cases member : item ∈ set.items
  · rw [add, if_pos ((exact.hasKey_iff item).mpr member), if_pos member]
  · rw [add, if_neg (mt (exact.hasKey_iff item).mp member), if_neg member]

theorem IsExact.add (exact : set.IsExact) (item : α) : (set.add item).2.IsExact := by
  rw [exact.add_eq]
  split
  · exact exact
  · next absent =>
      constructor
      · rw [List.nodup_append]
        refine ⟨exact.nodup, by simp, ?_⟩
        rintro other isListed _ isLast rfl
        exact absent (List.mem_singleton.mp isLast ▸ isListed)
      · intro other position
        rw [getElem?_concat_eq_some_iff]
        by_cases equal : item = other
        · subst equal
          have nowhere : set.items[position]? ≠ some item := fun found =>
            absent (List.mem_of_getElem? found)
          simp [Entries.get?_put_self, nowhere, eq_comm]
        · rw [Entries.get?_put_of_ne _ _ equal, exact.position_iff]
          simp [equal]

theorem pop_of_empty (isEmpty : set.items = []) : set.pop = (.error .emptyList, set) := by
  rw [pop, isEmpty]
  rfl

/-- Taking an item away gives the last one. -/
theorem IsExact.pop_eq (exact : set.IsExact) {before : List α} {last : α}
    (isConcat : set.items = before ++ [last]) :
    set.pop = (.ok last, ⟨before, set.positions.erase last⟩) := by
  have isKey : set.positions.hasKey last = true :=
    (exact.hasKey_iff last).mpr (by simp [isConcat])
  rw [pop, isConcat, List.getLast?_concat, List.dropLast_concat]
  exact if_pos isKey

/-- The last item of a set is no other one of its items. -/
theorem IsExact.nodup_of_concat (exact : set.IsExact) {before : List α} {last : α}
    (isConcat : set.items = before ++ [last]) : before.Nodup ∧ last ∉ before := by
  have distinct := exact.nodup
  rw [isConcat, List.nodup_append] at distinct
  exact ⟨distinct.1, fun member =>
    distinct.2.2 last member last (List.mem_singleton_self last) rfl⟩

/-- Without its last item a set is exact. -/
theorem IsExact.withoutLast (exact : set.IsExact) {before : List α} {last : α}
    (isConcat : set.items = before ++ [last]) :
    (⟨before, set.positions.erase last⟩ : IndexedSet α).IsExact := by
  obtain ⟨distinct, absent⟩ := exact.nodup_of_concat isConcat
  refine ⟨distinct, fun item position => ?_⟩
  by_cases equal : item = last
  · subst equal
    have nowhere : before[position]? ≠ some item := fun found =>
      absent (List.mem_of_getElem? found)
    simp [Entries.get?_erase_self, nowhere]
  · rw [Entries.get?_erase_of_ne _ equal, exact.position_iff, isConcat,
      getElem?_concat_eq_some_iff]
    simp [Ne.symm equal]

/-! ## Ordered sets -/

/-- An indexed set stands for the ordered set with the same items. -/
structure Represents (indexed : IndexedSet α) (ordered : OrderedSet α) : Prop where
  exact : indexed.IsExact
  items : indexed.items = ordered.items

variable {ordered : OrderedSet α}

theorem Represents.add (represents : set.Represents ordered) (item : α) :
    (set.add item).1 = (ordered.add item).1 ∧
      (set.add item).2.Represents (ordered.add item).2 := by
  have isExact := represents.exact.add item
  rw [represents.exact.add_eq, represents.items] at isExact ⊢
  by_cases member : item ∈ ordered.items
  · rw [if_pos member] at isExact ⊢
    refine ⟨by simp [OrderedSet.add, OrderedSet.contains, member], isExact, ?_⟩
    rw [OrderedSet.add, OrderedSet.items_insert, if_pos member]
    exact represents.items
  · rw [if_neg member] at isExact ⊢
    refine ⟨by simp [OrderedSet.add, OrderedSet.contains, member], isExact, ?_⟩
    rw [OrderedSet.add, OrderedSet.items_insert, if_neg member]

theorem Represents.ofList (items : List α) :
    (IndexedSet.ofList items).Represents (OrderedSet.ofList items) := by
  have folded : ∀ (indexed : IndexedSet α) (ordered : OrderedSet α), indexed.Represents ordered →
      (items.foldl (fun set item => (set.add item).2) indexed).Represents
        (items.foldl OrderedSet.insert ordered) := by
    induction items with
    | nil => exact fun _ _ represents => represents
    | cons item rest ih => exact fun _ _ represents => ih _ _ (represents.add item).2
  exact folded empty .empty ⟨isExact_empty, rfl⟩

theorem Represents.pop_of_none (represents : set.Represents ordered)
    (isNone : ordered.pop? = none) : set.pop = (.error .emptyList, set) :=
  pop_of_empty (represents.items.trans ((OrderedSet.pop?_eq_none_iff ordered).mp isNone))

theorem Represents.pop_of_some (represents : set.Represents ordered) {last : α}
    {rest : OrderedSet α} (isSome : ordered.pop? = some (last, rest)) :
    ∃ after, set.pop = (.ok last, after) ∧ after.Represents rest := by
  rw [OrderedSet.pop?] at isSome
  split at isSome
  · cases isSome
  · next item isLast =>
      cases isSome
      obtain ⟨before, isConcat⟩ := List.getLast?_eq_some_iff.mp isLast
      have isListed : set.items = before ++ [last] := represents.items.trans isConcat
      refine ⟨_, represents.exact.pop_eq isListed, represents.exact.withoutLast isListed, ?_⟩
      simp [isConcat]

end IndexedSet

end ApiScaffold
