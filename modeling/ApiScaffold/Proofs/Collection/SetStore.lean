import ApiScaffold.Proofs.Collection.IndexedSet

/-!
# Sets in a store do not disturb each other

The sets of a store have cells of their own.  So an operation changes the set that it is about and
no other one, copies included, and after any operations every set is an exact one.  The store
answers like ordered sets with the same names, and ends with the same items.
-/

namespace ApiScaffold.SetStore

variable {α : Type}

/-! ## Cells -/

/-- Every set has its cells, and shares none of them with another one. -/
structure IsSeparate (store : SetStore α) : Prop where
  bound : ∀ {name handle}, store.handles.get? name = some handle →
    handle.items < store.lists.length ∧ handle.positions < store.indexes.length
  apart : ∀ {first second : String} {handle other}, store.handles.get? first = some handle →
    store.handles.get? second = some other → first ≠ second →
    handle.items ≠ other.items ∧ handle.positions ≠ other.positions

variable {store : SetStore α} {name : String} {set : IndexedSet α}

theorem isSeparate_empty : (empty : SetStore α).IsSeparate where
  bound := nofun
  apart := nofun

theorem load_eq_some_iff {handle : SetHandle} :
    store.load handle = some set ↔ store.lists[handle.items]? = some set.items ∧
      store.indexes[handle.positions]? = some set.positions := by
  obtain ⟨items, positions⟩ := set
  simp [load, Option.bind_eq_some_iff]

theorem set?_eq_some_iff :
    store.set? name = some set ↔ ∃ handle, store.handles.get? name = some handle ∧
      store.load handle = some set :=
  Option.bind_eq_some_iff

/-! ## Changes of one set -/

/-- A store in which a name has got a new set, and all other names have kept theirs. -/
structure Gives (store : SetStore α) (name : String) (set : IndexedSet α) (after : SetStore α) :
    Prop where
  separate : after.IsSeparate
  sets : ∀ other, after.set? other = if other = name then some set else store.set? other

theorem Gives.self {after : SetStore α} (gives : store.Gives name set after) :
    after.set? name = some set := by
  rw [gives.sets, if_pos rfl]

/-- Writing to the cells of a set changes this set only. -/
theorem IsSeparate.gives_write (separate : store.IsSeparate) {handle : SetHandle}
    (found : store.handles.get? name = some handle) (set : IndexedSet α) :
    store.Gives name set (store.write handle set) where
  separate := by
    refine ⟨fun isHandle => ?_, fun isFirst isSecond => separate.apart isFirst isSecond⟩
    rw [write, List.length_set, List.length_set]
    exact separate.bound isHandle
  sets := by
    intro other
    obtain ⟨inLists, inIndexes⟩ := separate.bound found
    by_cases equal : other = name
    · subst equal
      rw [if_pos rfl, set?_eq_some_iff]
      refine ⟨handle, found, load_eq_some_iff.mpr ?_⟩
      exact ⟨List.getElem?_set_self inLists, List.getElem?_set_self inIndexes⟩
    · rw [if_neg equal, set?, set?]
      change (store.handles.get? other).bind _ = _
      cases isOther : store.handles.get? other with
      | none => rfl
      | some cells =>
          obtain ⟨lists, indexes⟩ := separate.apart found isOther (Ne.symm equal)
          rw [Option.bind_some, Option.bind_some, load, load, write, List.getElem?_set_ne lists,
            List.getElem?_set_ne indexes]

/-- The cells of a name are the new ones, or they were its cells before. -/
theorem cases_of_handles_allocate {other : String} {handle : SetHandle}
    (found : (store.allocate name set).handles.get? other = some handle) :
    (other = name ∧ handle = ⟨store.lists.length, store.indexes.length⟩) ∨
      other ≠ name ∧ store.handles.get? other = some handle := by
  by_cases equal : other = name
  · subst equal
    rw [allocate, Entries.get?_put_self] at found
    exact Or.inl ⟨rfl, (Option.some.inj found).symm⟩
  · rw [allocate, Entries.get?_put_of_ne _ _ (Ne.symm equal)] at found
    exact Or.inr ⟨equal, found⟩

/-- New cells are beyond the cells of all sets. -/
theorem IsSeparate.after_allocate (separate : store.IsSeparate) (name : String)
    (set : IndexedSet α) :
    (store.allocate name set).IsSeparate where
  bound := by
    intro other handle found
    rw [allocate, List.length_append, List.length_append]
    rcases cases_of_handles_allocate found with ⟨_, rfl⟩ | ⟨_, old⟩
    · exact ⟨Nat.lt_succ_self _, Nat.lt_succ_self _⟩
    · exact ⟨Nat.lt_succ_of_lt (separate.bound old).1, Nat.lt_succ_of_lt (separate.bound old).2⟩
  apart := by
    intro first second handle other isFirst isSecond different
    rcases cases_of_handles_allocate isFirst with ⟨rfl, rfl⟩ | ⟨_, firstOld⟩
    · rcases cases_of_handles_allocate isSecond with ⟨rfl, _⟩ | ⟨_, secondOld⟩
      · exact absurd rfl different
      · obtain ⟨inLists, inIndexes⟩ := separate.bound secondOld
        exact ⟨Nat.ne_of_gt inLists, Nat.ne_of_gt inIndexes⟩
    · rcases cases_of_handles_allocate isSecond with ⟨rfl, rfl⟩ | ⟨_, secondOld⟩
      · obtain ⟨inLists, inIndexes⟩ := separate.bound firstOld
        exact ⟨Nat.ne_of_lt inLists, Nat.ne_of_lt inIndexes⟩
      · exact separate.apart firstOld secondOld different

/-- A set in new cells disturbs no other one. -/
theorem IsSeparate.gives_allocate (separate : store.IsSeparate) (name : String)
    (set : IndexedSet α) : store.Gives name set (store.allocate name set) where
  separate := separate.after_allocate name set
  sets := by
    intro other
    by_cases equal : other = name
    · subst equal
      rw [if_pos rfl, set?_eq_some_iff]
      refine ⟨_, Entries.get?_put_self _ _ _, load_eq_some_iff.mpr ?_⟩
      simp [allocate]
    · rw [if_neg equal, set?, set?, allocate, Entries.get?_put_of_ne _ _ (Ne.symm equal)]
      cases isOther : store.handles.get? other with
      | none => rfl
      | some cells =>
          obtain ⟨inLists, inIndexes⟩ := separate.bound isOther
          rw [Option.bind_some, Option.bind_some, load, load, List.getElem?_append_left inLists,
            List.getElem?_append_left inIndexes]

/-- Writing what is in the cells changes nothing. -/
theorem write_eq_self {handle : SetHandle} (loaded : store.load handle = some set) :
    store.write handle set = store := by
  obtain ⟨isList, isIndex⟩ := load_eq_some_iff.mp loaded
  obtain ⟨_, items⟩ := List.getElem?_eq_some_iff.mp isList
  obtain ⟨_, positions⟩ := List.getElem?_eq_some_iff.mp isIndex
  rw [write, ← items, ← positions, List.set_getElem_self, List.set_getElem_self]

/-! ## Operations -/

section

variable {method : IndexedSet α → SetAnswer α × IndexedSet α}

theorem change_of_none (absent : store.set? name = none) :
    store.change name method = (.unknownName, store) := by
  unfold change
  split
  · rfl
  · next handle found =>
      rw [set?, found, Option.bind_some] at absent
      rw [absent]

theorem change_of_some {handle : SetHandle} (found : store.handles.get? name = some handle)
    (loaded : store.load handle = some set) :
    store.change name method = ((method set).1, store.write handle (method set).2) := by
  rw [change, found]
  simp only [loaded]

/-- Changing a set in place answers for this set and changes no other one. -/
theorem IsSeparate.gives_change (separate : store.IsSeparate) (isSet : store.set? name = some set)
    {answer : SetAnswer α} {changed : IndexedSet α} (result : method set = (answer, changed)) :
    (store.change name method).1 = answer ∧
      store.Gives name changed (store.change name method).2 := by
  obtain ⟨handle, found, loaded⟩ := set?_eq_some_iff.mp isSet
  rw [change_of_some found loaded, result]
  exact ⟨rfl, separate.gives_write found _⟩

/-- A change that leaves a set as it is leaves the store as it is. -/
theorem change_eq_self (isSet : store.set? name = some set) {answer : SetAnswer α}
    (result : method set = (answer, set)) : store.change name method = (answer, store) := by
  obtain ⟨handle, found, loaded⟩ := set?_eq_some_iff.mp isSet
  rw [change_of_some found loaded, result, write_eq_self loaded]

end

variable [DecidableEq α]

theorem IsSeparate.step_add (separate : store.IsSeparate) (isSet : store.set? name = some set)
    (item : α) :
    (store.step (.add name item)).1 = .added (set.add item).1 ∧
      store.Gives name (set.add item).2 (store.step (.add name item)).2 :=
  separate.gives_change isSet rfl

theorem IsSeparate.step_pop (separate : store.IsSeparate) (isSet : store.set? name = some set)
    {result : Except SetFault α} {rest : IndexedSet α} (isPopped : set.pop = (result, rest)) :
    (store.step (.pop name)).1 = .popped result ∧
      store.Gives name rest (store.step (.pop name)).2 :=
  separate.gives_change isSet (by rw [isPopped])

theorem step_add_eq_self (isSet : store.set? name = some set) {item : α}
    (unchanged : set.add item = (false, set)) :
    store.step (.add name item) = (.added false, store) :=
  change_eq_self isSet (by rw [unchanged])

theorem step_pop_eq_self (isSet : store.set? name = some set) {result : Except SetFault α}
    (unchanged : set.pop = (result, set)) :
    store.step (.pop name) = (.popped result, store) :=
  change_eq_self isSet (by rw [unchanged])

theorem IsSeparate.step_copy (separate : store.IsSeparate) {source : String}
    (isSet : store.set? source = some set) (target : String) :
    (store.step (.copy source target)).1 = .done ∧
      store.Gives target set (store.step (.copy source target)).2 := by
  rw [step, isSet]
  exact ⟨rfl, separate.gives_allocate target set⟩

/-- An operation leaves the store as it is, or gives the set that it is about. -/
theorem IsSeparate.step_cases (separate : store.IsSeparate) (operation : SetOperation α) :
    (store.step operation).2 = store ∨
      ∃ set, store.Gives operation.target set (store.step operation).2 := by
  have changes : ∀ name (method : IndexedSet α → SetAnswer α × IndexedSet α),
      (store.change name method).2 = store ∨
        ∃ set, store.Gives name set (store.change name method).2 := by
    intro name method
    cases isSet : store.set? name with
    | none => exact Or.inl (by rw [change_of_none isSet])
    | some set => exact Or.inr ⟨_, (separate.gives_change isSet (Prod.eta (method set)).symm).2⟩
  cases operation with
  | create name items => exact Or.inr ⟨_, separate.gives_allocate name _⟩
  | add name item => exact changes name _
  | pop name => exact changes name _
  | copy source target =>
      rw [step]
      split
      · exact Or.inl rfl
      · exact Or.inr ⟨_, separate.gives_allocate target _⟩

theorem IsSeparate.step (separate : store.IsSeparate) (operation : SetOperation α) :
    (store.step operation).2.IsSeparate := by
  rcases separate.step_cases operation with unchanged | ⟨_, gives⟩
  · rwa [unchanged]
  · exact gives.separate

/-- An operation about another set leaves a set as it is. -/
theorem IsSeparate.set?_step (separate : store.IsSeparate) {operation : SetOperation α}
    {other : String} (different : operation.target ≠ other) :
    (store.step operation).2.set? other = store.set? other := by
  rcases separate.step_cases operation with unchanged | ⟨_, gives⟩
  · rw [unchanged]
  · rw [gives.sets, if_neg (Ne.symm different)]

/-- Operations about other sets leave a set as it is. -/
theorem IsSeparate.set?_run (separate : store.IsSeparate) {operations : List (SetOperation α)}
    {other : String} (different : ∀ operation ∈ operations, operation.target ≠ other) :
    (store.run operations).2.set? other = store.set? other := by
  induction operations generalizing store with
  | nil => rfl
  | cons operation rest ih =>
      rw [List.forall_mem_cons] at different
      rw [run, ih (separate.step operation) different.2, separate.set?_step different.1]

/-! ## Ordered sets -/

/-- A store stands for ordered sets with the same names. -/
structure Represents (store : SetStore α) (sets : Entries String (OrderedSet α)) : Prop where
  separate : store.IsSeparate
  each : ∀ name, Option.Rel IndexedSet.Represents (store.set? name) (sets.get? name)

variable {sets : Entries String (OrderedSet α)}

/-- What is given to a store is put among the ordered sets. -/
theorem Represents.of_gives (represents : store.Represents sets) {after : SetStore α}
    (gives : store.Gives name set after) {ordered : OrderedSet α}
    (isSet : set.Represents ordered) : after.Represents (sets.put name ordered) where
  separate := gives.separate
  each := by
    intro other
    rw [gives.sets]
    by_cases equal : other = name
    · subst equal
      rw [if_pos rfl, Entries.get?_put_self]
      exact .some isSet
    · rw [if_neg equal, Entries.get?_put_of_ne _ _ (Ne.symm equal)]
      exact represents.each other

/-- A name stands for a set in the store exactly if it does among the ordered sets. -/
theorem Represents.cases (represents : store.Represents sets) (name : String) :
    (store.set? name = none ∧ sets.get? name = none) ∨
      ∃ set ordered, store.set? name = some set ∧ sets.get? name = some ordered ∧
        set.Represents ordered := by
  have here := represents.each name
  cases isSet : store.set? name <;> cases isOrdered : sets.get? name <;>
    rw [isSet, isOrdered] at here
  · exact Or.inl ⟨rfl, rfl⟩
  · cases here
  · cases here
  · cases here with
    | some isRepresented => exact Or.inr ⟨_, _, rfl, rfl, isRepresented⟩

theorem Represents.step_add (represents : store.Represents sets) (name : String) (item : α) :
    (store.step (.add name item)).1 = (OrderedSet.step sets (.add name item)).1 ∧
      (store.step (.add name item)).2.Represents (OrderedSet.step sets (.add name item)).2 := by
  rcases represents.cases name with ⟨isNone, noOrdered⟩ | ⟨set, ordered, isSet, isOrdered, stands⟩
  · rw [SetStore.step, OrderedSet.step, change_of_none isNone, noOrdered]
    exact ⟨rfl, represents⟩
  · have here : OrderedSet.step sets (.add name item) =
        (.added (ordered.add item).1, sets.put name (ordered.add item).2) := by
      simp only [OrderedSet.step, isOrdered]
    obtain ⟨isNew, standsAfter⟩ := stands.add item
    obtain ⟨answer, gives⟩ := represents.separate.step_add isSet item
    rw [here, answer, isNew]
    exact ⟨rfl, represents.of_gives gives standsAfter⟩

theorem Represents.step_pop (represents : store.Represents sets) (name : String) :
    (store.step (.pop name)).1 = (OrderedSet.step sets (.pop name)).1 ∧
      (store.step (.pop name)).2.Represents (OrderedSet.step sets (.pop name)).2 := by
  rcases represents.cases name with ⟨isNone, noOrdered⟩ | ⟨set, ordered, isSet, isOrdered, stands⟩
  · rw [SetStore.step, OrderedSet.step, change_of_none isNone, noOrdered]
    exact ⟨rfl, represents⟩
  · cases isPopped : ordered.pop? with
    | none =>
        have here : OrderedSet.step sets (.pop name) = (.popped (.error .emptyList), sets) := by
          simp only [OrderedSet.step, isOrdered, isPopped]
        rw [here, step_pop_eq_self isSet (stands.pop_of_none isPopped)]
        exact ⟨rfl, represents⟩
    | some popped =>
        obtain ⟨last, rest⟩ := popped
        have here : OrderedSet.step sets (.pop name) =
            (.popped (.ok last), sets.put name rest) := by
          simp only [OrderedSet.step, isOrdered, isPopped]
        obtain ⟨after, isAfter, standsAfter⟩ := stands.pop_of_some isPopped
        obtain ⟨answer, gives⟩ := represents.separate.step_pop isSet isAfter
        rw [here, answer]
        exact ⟨rfl, represents.of_gives gives standsAfter⟩

theorem Represents.step_copy (represents : store.Represents sets) (source target : String) :
    (store.step (.copy source target)).1 = (OrderedSet.step sets (.copy source target)).1 ∧
      (store.step (.copy source target)).2.Represents
        (OrderedSet.step sets (.copy source target)).2 := by
  rcases represents.cases source with
    ⟨isNone, noOrdered⟩ | ⟨set, ordered, isSet, isOrdered, stands⟩
  · rw [SetStore.step, OrderedSet.step, isNone, noOrdered]
    exact ⟨rfl, represents⟩
  · have here : OrderedSet.step sets (.copy source target) =
        (.done, sets.put target ordered) := by
      simp only [OrderedSet.step, isOrdered]
    obtain ⟨answer, gives⟩ := represents.separate.step_copy isSet target
    rw [here, answer]
    exact ⟨rfl, represents.of_gives gives stands⟩

/-- An operation with a store is the operation with the ordered sets. -/
theorem Represents.step (represents : store.Represents sets) (operation : SetOperation α) :
    (store.step operation).1 = (OrderedSet.step sets operation).1 ∧
      (store.step operation).2.Represents (OrderedSet.step sets operation).2 := by
  cases operation with
  | create name items =>
      exact ⟨rfl, represents.of_gives (represents.separate.gives_allocate name _) (.ofList items)⟩
  | add name item => exact represents.step_add name item
  | pop name => exact represents.step_pop name
  | copy source target => exact represents.step_copy source target

theorem Represents.run (represents : store.Represents sets) (operations : List (SetOperation α)) :
    (store.run operations).1 = (OrderedSet.run sets operations).1 ∧
      (store.run operations).2.Represents (OrderedSet.run sets operations).2 := by
  induction operations generalizing store sets with
  | nil => exact ⟨rfl, represents⟩
  | cons operation rest ih =>
      obtain ⟨answer, after⟩ := represents.step operation
      obtain ⟨answers, final⟩ := ih after
      refine ⟨?_, final⟩
      rw [SetStore.run, OrderedSet.run, answer, answers]

theorem represents_empty : (empty : SetStore α).Represents [] where
  separate := isSeparate_empty
  each := fun _ => .none

/-- Every set of a store that stands for ordered sets is exact. -/
theorem Represents.isExact (represents : store.Represents sets)
    (isSet : store.set? name = some set) : set.IsExact := by
  rcases represents.cases name with ⟨isNone, _⟩ | ⟨found, _, isFound, _, stands⟩
  · cases isNone.symm.trans isSet
  · obtain rfl := Option.some.inj (isFound.symm.trans isSet)
    exact stands.exact

/-! ## Lists without repetitions -/

/-- A store whose sets are lists without repetitions, and independent of each other. -/
structure BehavesAsLists (store : SetStore α) : Prop where
  /-- No item is listed twice, and the index has each item at its position. -/
  exact : ∀ name set, store.set? name = some set → set.items.Nodup ∧
    ∀ item position, set.positions.get? item = some position ↔ set.items[position]? = some item
  /-- What is asked of a set can be read off its list. -/
  questions : ∀ name set, store.set? name = some set → ∀ item,
    set.contains item = decide (item ∈ set.items) ∧ set.index? item = set.items.idxOf? item ∧
      set.size = set.items.length
  /-- A new set has the items of a list, each at its first position. -/
  create : ∀ name items, ∃ set, (store.step (.create name items)).2.set? name = some set ∧
    set.items = (OrderedSet.ofList items).items
  /-- An item that is absent is appended. -/
  addAbsent : ∀ name set item, store.set? name = some set → item ∉ set.items →
    (store.step (.add name item)).1 = .added true ∧
      ∃ changed, (store.step (.add name item)).2.set? name = some changed ∧
        changed.items = set.items ++ [item]
  addPresent : ∀ name set item, store.set? name = some set → item ∈ set.items →
    store.step (.add name item) = (.added false, store)
  /-- The last item is taken away, and can be added again. -/
  popLast : ∀ name set before last, store.set? name = some set → set.items = before ++ [last] →
    (store.step (.pop name)).1 = .popped (.ok last) ∧
      (∃ changed, (store.step (.pop name)).2.set? name = some changed ∧ changed.items = before) ∧
      ((store.step (.pop name)).2.step (.add name last)).1 = .added true
  popEmpty : ∀ name set, store.set? name = some set → set.items = [] →
    store.step (.pop name) = (.popped (.error .emptyList), store)
  /-- A copy has the same items. -/
  copy : ∀ source target set, store.set? source = some set →
    (store.step (.copy source target)).1 = .done ∧
      (store.step (.copy source target)).2.set? target = some set
  /-- Whatever is done with other sets, the originals and the copies of a set among them, the set
  stays as it is. -/
  others : ∀ operations other, (∀ operation ∈ operations, operation.target ≠ other) →
    (store.run operations).2.set? other = store.set? other
  /-- Sets are equal exactly if their lists are, and then they have equal positions. -/
  equal : ∀ first second set other, store.set? first = some set → store.set? second = some other →
    (set.equal other = true ↔ set.items = other.items) ∧
      (set.items = other.items → ∀ item, set.index? item = other.index? item)

theorem Represents.behavesAsLists (represents : store.Represents sets) : store.BehavesAsLists where
  exact name set isSet := by
    have exact := represents.isExact isSet
    exact ⟨exact.nodup, exact.position_iff⟩
  questions name set isSet item := by
    have exact := represents.isExact isSet
    exact ⟨exact.contains_eq item, exact.index?_eq item, rfl⟩
  create name items :=
    ⟨_, (represents.separate.gives_allocate name _).self,
      (IndexedSet.Represents.ofList items).items⟩
  addAbsent name set item isSet absent := by
    have added := (represents.isExact isSet).add_eq item
    rw [if_neg absent] at added
    obtain ⟨answer, gives⟩ := represents.separate.step_add isSet item
    rw [added] at answer gives
    exact ⟨answer, _, gives.self, rfl⟩
  addPresent name set item isSet member := by
    apply step_add_eq_self isSet
    rw [(represents.isExact isSet).add_eq item, if_pos member]
  popLast name set before last isSet isConcat := by
    have exact := represents.isExact isSet
    obtain ⟨answer, gives⟩ := represents.separate.step_pop isSet (exact.pop_eq isConcat)
    have added := (exact.withoutLast isConcat).add_eq last
    rw [if_neg (exact.nodup_of_concat isConcat).2] at added
    refine ⟨answer, ⟨_, gives.self, rfl⟩, ?_⟩
    rw [(gives.separate.step_add gives.self last).1, added]
  popEmpty name set isSet isEmpty := step_pop_eq_self isSet (IndexedSet.pop_of_empty isEmpty)
  copy source target set isSet := by
    obtain ⟨answer, gives⟩ := represents.separate.step_copy isSet target
    exact ⟨answer, gives.self⟩
  others _ _ different := represents.separate.set?_run different
  equal first second set other isSet isOther := by
    refine ⟨decide_eq_true_iff, fun same item => ?_⟩
    rw [(represents.isExact isSet).index?_eq, (represents.isExact isOther).index?_eq, same]

/-- After any operations on sets of any names the sets of a store are lists without repetitions,
which do not disturb each other.  All answers are those of ordered sets with the same names, and
the items in the end are theirs. -/
theorem stores_behave_as_lists (operations : List (SetOperation α)) :
    ((empty : SetStore α).run operations).1 = (OrderedSet.run [] operations).1 ∧
      (∀ name, (((empty : SetStore α).run operations).2.set? name).map IndexedSet.items =
        ((OrderedSet.run [] operations).2.get? name).map OrderedSet.items) ∧
      ((empty : SetStore α).run operations).2.BehavesAsLists := by
  obtain ⟨answers, represents⟩ := (represents_empty (α := α)).run operations
  refine ⟨answers, fun name => ?_, represents.behavesAsLists⟩
  rcases represents.cases name with ⟨isNone, noOrdered⟩ | ⟨_, _, isSet, isOrdered, stands⟩
  · rw [isNone, noOrdered]
    rfl
  · rw [isSet, isOrdered]
    exact congrArg some stands.items

end ApiScaffold.SetStore
