import ApiScaffold.Proofs.Storage.Writing

/-!
# Local paths

The paths of a storage obey the laws of paths for output.  A path leads to a location by the
directories on its way alone, so writing a file does not change where other paths lead.

Making a directory adds those that its path passes.  If it succeeds, the path leads to a
directory, and a file in it can be opened unless a directory has its name.
-/

namespace ApiScaffold

namespace Storage

/-! ## Locations -/

/-- The locations that names lead to, one after the other. -/
def passed (current : Location) : List String → List Location
  | [] => []
  | name :: rest =>
      let next := if name = FilePath.parentName then current.dropLast else current ++ [name]
      next :: passed next rest

/-- What can be seen of a storage. -/
def view : PathView Storage FilePath Location where
  node? := Storage.node?
  site? storage path :=
    match objection? path with
    | some _ => none
    | none => (storage.entryAt path).toOption
  Passes storage path location :=
    location ∈ passed (storage.startLocation path.start) path.names

theorem isDirectory_iff {storage : Storage} {location : Location} :
    storage.isDirectory location = true ↔ storage.node? location = some .directory := by
  unfold isDirectory
  split <;> simp_all

section SameDirectories

variable {earlier later : Storage}

end SameDirectories

/-- What is there stays as it is, and what is new are directories at some of the places. -/
def GainsDirectories (earlier later : Storage) (places : List Location) : Prop :=
  ∀ location, later.node? location = earlier.node? location ∨
    location ∈ places ∧ earlier.node? location = none ∧
      later.node? location = some .directory

namespace GainsDirectories

variable {earlier later : Storage} {places : List Location}

theorem refl (storage : Storage) (places : List Location) :
    storage.GainsDirectories storage places :=
  fun _ => Or.inl rfl

theorem mono {more : List Location} (gains : earlier.GainsDirectories later places)
    (wider : ∀ place ∈ places, place ∈ more) : earlier.GainsDirectories later more :=
  fun location => (gains location).imp_right fun new => ⟨wider location new.1, new.2⟩

/-- One more directory comes before the others. -/
theorem put {location : Location} (below : location ≠ [])
    (absent : earlier.node? location = none)
    (gains : (earlier.put location .directory).GainsDirectories later places) :
    earlier.GainsDirectories later (location :: places) := by
  intro other
  by_cases same : location = other
  · subst same
    right
    refine ⟨List.mem_cons_self, absent, ?_⟩
    rcases gains location with kept | ⟨_, _, isDirectory⟩
    · rw [kept, node?_put_self earlier below]
    · exact isDirectory
  · rcases gains other with kept | ⟨inPlaces, before, isDirectory⟩
    · exact Or.inl (kept.trans (node?_put_of_ne earlier _ same))
    · rw [node?_put_of_ne earlier _ same] at before
      exact Or.inr ⟨List.mem_cons_of_mem _ inPlaces, before, isDirectory⟩

/-- What is there stays there. -/
theorem node?_eq_some (gains : earlier.GainsDirectories later places) {location : Location}
    {node : FileNode} (found : earlier.node? location = some node) :
    later.node? location = some node := by
  rcases gains location with kept | ⟨_, absent, _⟩
  · exact kept.trans found
  · rw [found] at absent
    cases absent

theorem isDirectory (gains : earlier.GainsDirectories later places) {location : Location}
    (before : earlier.isDirectory location = true) : later.isDirectory location = true :=
  isDirectory_iff.mpr (gains.node?_eq_some (isDirectory_iff.mp before))

end GainsDirectories

end Storage

end ApiScaffold
