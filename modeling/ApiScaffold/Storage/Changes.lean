import ApiScaffold.Storage.Basic

/-!
# Changes of a storage

What is different in a storage from an earlier state of it: new directories, new files,
and files with other bytes.
-/

namespace ApiScaffold.Storage

/-- Whether a file or a directory is as it was before. -/
def isUnchanged (earlier : Option FileNode) (node : FileNode) : Bool :=
  match earlier, node with
  | some (.file before), .file after => before.data = after.data
  | some .directory, .directory => true
  | _, _ => false

/-- The changes from an earlier state, those of directories before those below them. -/
def changesSince (later earlier : Storage) : List (Location × FileNode) :=
  later.nodes.filter fun (location, node) => !isUnchanged (earlier.node? location) node

/-- Nothing has changed since the state itself, if every location occurs once. -/
theorem changesSince_self (storage : Storage) (distinct : storage.nodes.keys.Nodup)
    (below : [] ∉ storage.nodes.keys) : storage.changesSince storage = [] := by
  simp only [changesSince, List.filter_eq_nil_iff]
  intro entry member
  rcases entry with ⟨location, node⟩
  have present : location ∈ storage.nodes.keys := List.mem_map.mpr ⟨_, member, rfl⟩
  have rooted : location ≠ [] := fun equal => below (equal ▸ present)
  have found := Entries.get?_eq_some_of_mem distinct member
  cases location with
  | nil => exact absurd rfl rooted
  | cons name rest =>
      cases node <;> simp [node?, found, isUnchanged]

end ApiScaffold.Storage
