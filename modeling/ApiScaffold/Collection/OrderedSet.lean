import ApiScaffold.Text.Quoted

/-!
# Sets that remember the order of insertion

An `OrderedSet` holds each item once, at the position at which it was first
added.  It is a list without repetitions; `add` appends an item that is not
there, `pop?` takes the newest item away, and `index?` says where an item is.  A set of
texts is written as its items in quotes, in their order.

Two sets are equal exactly when they hold the same items in the same order.
-/

namespace ApiScaffold

universe u

/-- A list without repetitions, in the order of insertion. -/
structure OrderedSet (α : Type u) where
  /-- The items, the oldest first. -/
  items : List α
  /-- No item is listed twice. -/
  nodup : items.Nodup

namespace OrderedSet

variable {α : Type u}

/-- Sets with the same items in the same order are equal. -/
@[ext]
theorem ext {first second : OrderedSet α} (same : first.items = second.items) :
    first = second := by
  cases first
  cases second
  cases same
  rfl

/-- The set without items. -/
def empty : OrderedSet α :=
  ⟨[], List.nodup_nil⟩

instance : Inhabited (OrderedSet α) :=
  ⟨empty⟩

/-- The text of a set of texts. -/
def text (set : OrderedSet String) : String :=
  "OrderedSet([" ++ ", ".intercalate (set.items.map Text.quoted) ++ "])"

/-- The number of items. -/
def size (set : OrderedSet α) : Nat :=
  set.items.length

/-- Take the newest item away; an empty set has none. -/
def pop? (set : OrderedSet α) : Option (α × OrderedSet α) :=
  match set.items.getLast? with
  | none => none
  | some item =>
      some (item, ⟨set.items.dropLast, set.nodup.sublist (List.dropLast_sublist _)⟩)

variable [DecidableEq α]

instance : DecidableEq (OrderedSet α) := fun first second =>
  decidable_of_iff (first.items = second.items)
    ⟨OrderedSet.ext, fun equal => equal ▸ rfl⟩

/-- Whether an item is in the set. -/
def contains (set : OrderedSet α) (item : α) : Bool :=
  decide (item ∈ set.items)

/-- The position of an item, counted from zero. -/
def index? (set : OrderedSet α) (item : α) : Option Nat :=
  set.items.idxOf? item

/-- Append an item that is not there yet. -/
def insert (set : OrderedSet α) (item : α) : OrderedSet α :=
  if absent : item ∈ set.items then set
  else
    ⟨set.items ++ [item], by
      refine List.nodup_append.mpr ⟨set.nodup, by simp, ?_⟩
      intro present presentMem added addedMem equal
      simp only [List.mem_singleton] at addedMem
      exact absent (addedMem ▸ equal ▸ presentMem)⟩

/-- Append an item, and say whether it was new. -/
def add (set : OrderedSet α) (item : α) : Bool × OrderedSet α :=
  (!set.contains item, set.insert item)

/-- The set of the items of a list, each at its first position. -/
def ofList (items : List α) : OrderedSet α :=
  items.foldl insert empty

omit [DecidableEq α] in
@[simp]
theorem items_empty : (empty : OrderedSet α).items = [] :=
  rfl

@[simp]
theorem contains_eq_true_iff (set : OrderedSet α) (item : α) :
    set.contains item = true ↔ item ∈ set.items := by
  simp [contains]

/-- What `insert` does to the items. -/
theorem items_insert (set : OrderedSet α) (item : α) :
    (set.insert item).items =
      if item ∈ set.items then set.items else set.items ++ [item] := by
  by_cases member : item ∈ set.items <;> simp [insert, member]

@[simp]
theorem mem_items_insert (set : OrderedSet α) (item wanted : α) :
    wanted ∈ (set.insert item).items ↔ wanted ∈ set.items ∨ wanted = item := by
  rw [items_insert]
  by_cases member : item ∈ set.items
  · simp only [member, if_true]
    exact ⟨Or.inl, fun either => either.elim id (fun equal => equal ▸ member)⟩
  · simp [member]

omit [DecidableEq α] in
/-- `pop?` fails only on the empty set. -/
theorem pop?_eq_none_iff (set : OrderedSet α) : set.pop? = none ↔ set.items = [] := by
  unfold pop?
  split
  · next absent => simpa using absent
  · next item found =>
      constructor
      · intro impossible
        cases impossible
      · intro nothing
        simp [nothing] at found

/-- The position of an item is where the item stands. -/
theorem index?_eq_some_iff (set : OrderedSet α) (item : α) (position : Nat) :
    set.index? item = some position ↔ set.items[position]? = some item := by
  have distinct := set.nodup
  unfold index?
  generalize set.items = items at distinct ⊢
  induction items generalizing position with
  | nil => simp
  | cons first rest ih =>
      have tail := (List.nodup_cons.mp distinct).2
      have absent := (List.nodup_cons.mp distinct).1
      by_cases equal : first = item
      · subst equal
        rw [List.idxOf?_cons]
        cases position with
        | zero => simp
        | succ position =>
            have missing : rest[position]? ≠ some first := fun found =>
              absent (List.mem_of_getElem? found)
            simp [missing]
      · rw [List.idxOf?_cons]
        cases position with
        | zero => simp [equal]
        | succ position =>
            simp only [beq_iff_eq, equal, if_false, List.getElem?_cons_succ]
            refine Iff.trans ?_ (ih position tail)
            cases List.idxOf? item rest <;> simp

end OrderedSet

end ApiScaffold
