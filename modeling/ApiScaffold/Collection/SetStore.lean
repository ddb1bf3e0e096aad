import ApiScaffold.Collection.Entries
import ApiScaffold.Collection.OrderedSet

/-!
# Sets in a store

Looking for an item in a list takes time.  An `IndexedSet` therefore keeps, besides the list of its
items, the position of each item under the item.  Every operation has to change both in step.

Sets have names and can be changed in place.  A `SetStore` has a cell for each list and a cell for
each index of positions, and a name stands for a set by the numbers of its two cells.  A copy of
a set gets cells of its own.

The same operations on ordered sets, which are lists without repetitions, say what is expected.
-/

namespace ApiScaffold

variable {α : Type}

/-- A mapping without the entries of a key. -/
def Entries.erase {κ : Type} [DecidableEq κ] (entries : Entries κ α) (key : κ) : Entries κ α :=
  entries.filter fun entry => decide (entry.1 ≠ key)

/-! ## Sets with an index -/

/-- A list of items and the positions of the items. -/
structure IndexedSet (α : Type) where
  items : List α
  positions : Entries α Nat

/-- Why no item can be taken away from a set. -/
inductive SetFault where
  /-- The list has no last item. -/
  | emptyList
  /-- No position is known for the item that was taken from the list. -/
  | unknownItem
  deriving DecidableEq

namespace IndexedSet

/-- The set without items. -/
def empty : IndexedSet α :=
  ⟨[], []⟩

/-- The number of items. -/
def size (set : IndexedSet α) : Nat :=
  set.items.length

variable [DecidableEq α]

/-- Whether an item is in the set. -/
def contains (set : IndexedSet α) (item : α) : Bool :=
  set.positions.hasKey item

/-- The position of an item, counted from zero. -/
def index? (set : IndexedSet α) (item : α) : Option Nat :=
  set.positions.get? item

/-- Append an item unless it is there, and say whether it was new. -/
def add (set : IndexedSet α) (item : α) : Bool × IndexedSet α :=
  if set.positions.hasKey item then (false, set)
  else (true, ⟨set.items ++ [item], set.positions.put item set.items.length⟩)

/-- Take the last item of the list away, and then its position. -/
def pop (set : IndexedSet α) : Except SetFault α × IndexedSet α :=
  match set.items.getLast? with
  | none => (.error .emptyList, set)
  | some item =>
      if set.positions.hasKey item then
        (.ok item, ⟨set.items.dropLast, set.positions.erase item⟩)
      else (.error .unknownItem, ⟨set.items.dropLast, set.positions⟩)

/-- The set to which the items of a list are added one after the other. -/
def ofList (items : List α) : IndexedSet α :=
  items.foldl (fun set item => (set.add item).2) empty

/-- Whether two sets list the same items in the same order. -/
def equal (first second : IndexedSet α) : Bool :=
  decide (first.items = second.items)

end IndexedSet

/-! ## Operations -/

/-- What can be done with the sets of a store. -/
inductive SetOperation (α : Type) where
  /-- Make a new set of these items. -/
  | create (name : String) (items : List α)
  | add (name : String) (item : α)
  | pop (name : String)
  /-- Give a copy of the first set the second name. -/
  | copy (source target : String)

/-- The name of the set that an operation makes or changes. -/
def SetOperation.target : SetOperation α → String
  | create name _ | add name _ | pop name | copy _ name => name

/-- What an operation answers. -/
inductive SetAnswer (α : Type) where
  | done
  /-- Whether the item was new. -/
  | added (isNew : Bool)
  | popped (result : Except SetFault α)
  | unknownName

/-! ## Stores -/

/-- The numbers of the cells of a set. -/
structure SetHandle where
  items : Nat
  positions : Nat

/-- Cells for lists and for indexes, and the sets by their names. -/
structure SetStore (α : Type) where
  lists : List (List α)
  indexes : List (Entries α Nat)
  handles : Entries String SetHandle

namespace SetStore

/-- The store without sets. -/
def empty : SetStore α :=
  ⟨[], [], []⟩

/-- The set in these cells. -/
def load (store : SetStore α) (handle : SetHandle) : Option (IndexedSet α) := do
  let items ← store.lists[handle.items]?
  let positions ← store.indexes[handle.positions]?
  pure ⟨items, positions⟩

/-- The set with a name. -/
def set? (store : SetStore α) (name : String) : Option (IndexedSet α) :=
  (store.handles.get? name).bind store.load

/-- Change the contents of the cells of a set. -/
def write (store : SetStore α) (handle : SetHandle) (set : IndexedSet α) : SetStore α :=
  { store with
    lists := store.lists.set handle.items set.items
    indexes := store.indexes.set handle.positions set.positions }

/-- Put a set into new cells and give it a name. -/
def allocate (store : SetStore α) (name : String) (set : IndexedSet α) : SetStore α where
  lists := store.lists ++ [set.items]
  indexes := store.indexes ++ [set.positions]
  handles := store.handles.put name ⟨store.lists.length, store.indexes.length⟩

/-- Change the set with a name in place. -/
def change (store : SetStore α) (name : String)
    (method : IndexedSet α → SetAnswer α × IndexedSet α) : SetAnswer α × SetStore α :=
  match store.handles.get? name with
  | none => (.unknownName, store)
  | some handle =>
      match store.load handle with
      | none => (.unknownName, store)
      | some set => ((method set).1, store.write handle (method set).2)

variable [DecidableEq α]

/-- Do an operation. -/
def step (store : SetStore α) : SetOperation α → SetAnswer α × SetStore α
  | .create name items => (.done, store.allocate name (.ofList items))
  | .add name item => store.change name fun set => (.added (set.add item).1, (set.add item).2)
  | .pop name => store.change name fun set => (.popped set.pop.1, set.pop.2)
  | .copy source target =>
      match store.set? source with
      | none => (.unknownName, store)
      | some set => (.done, store.allocate target set)

/-- Do one operation after the other, and list the answers. -/
def run (store : SetStore α) : List (SetOperation α) → List (SetAnswer α) × SetStore α
  | [] => ([], store)
  | operation :: rest =>
      let first := store.step operation
      let later := run first.2 rest
      (first.1 :: later.1, later.2)

end SetStore

/-! ## Ordered sets with names -/

namespace OrderedSet

variable [DecidableEq α]

/-- Do an operation with ordered sets. -/
def step (sets : Entries String (OrderedSet α)) :
    SetOperation α → SetAnswer α × Entries String (OrderedSet α)
  | .create name items => (.done, sets.put name (.ofList items))
  | .add name item =>
      match sets.get? name with
      | none => (.unknownName, sets)
      | some set => (.added (set.add item).1, sets.put name (set.add item).2)
  | .pop name =>
      match sets.get? name with
      | none => (.unknownName, sets)
      | some set =>
          match set.pop? with
          | none => (.popped (.error .emptyList), sets)
          | some (item, rest) => (.popped (.ok item), sets.put name rest)
  | .copy source target =>
      match sets.get? source with
      | none => (.unknownName, sets)
      | some set => (.done, sets.put target set)

/-- Do one operation after the other with ordered sets, and list the answers. -/
def run (sets : Entries String (OrderedSet α)) :
    List (SetOperation α) → List (SetAnswer α) × Entries String (OrderedSet α)
  | [] => ([], sets)
  | operation :: rest =>
      let first := step sets operation
      let later := run first.2 rest
      (first.1 :: later.1, later.2)

end OrderedSet

end ApiScaffold
