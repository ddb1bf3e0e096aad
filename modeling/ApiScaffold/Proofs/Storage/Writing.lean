import ApiScaffold.Storage.PathSystem

/-!
# What writing changes

Generated files can go to any system of paths, so what is used of such a system is stated as
its laws.  They are about single steps: making a directory adds nothing but directories on the
way to it; a file is written if its path leads to a place without a directory and its text has
bytes; a text without bytes leaves the file empty, because it is opened first.

A row of files is then written up to the first one that cannot be written, and nothing else is
changed.
-/

namespace ApiScaffold

/-- What can be seen of a world. -/
structure PathView (World Place Site : Type) where
  /-- The file or the directory at a site. -/
  node? : World → Site → Option FileNode
  /-- The site that a place leads to, whether or not something is there. -/
  site? : World → Place → Option Site
  /-- Whether a site is on the way to a place, or is the one that it leads to. -/
  Passes : World → Place → Site → Prop

namespace PathView

variable {World Place Site : Type} (view : PathView World Place Site)

/-- What is there stays as it is, and what is new are directories on the way to a place. -/
def GainsDirectories (earlier later : World) (place : Place) : Prop :=
  ∀ site, view.node? later site = view.node? earlier site ∨
    view.Passes earlier place site ∧ view.node? earlier site = none ∧
      view.node? later site = some .directory

/-- A place leads somewhere, and no directory is there. -/
def CanOpen (world : World) (place : Place) : Prop :=
  ∃ site, view.site? world place = some site ∧ view.node? world site ≠ some .directory

/-- The file at a site gets a content, and nothing else changes. -/
structure Changes (earlier later : World) (site : Site) (content : ByteArray) : Prop where
  changed : view.node? later site = some (.file content)
  others : ∀ other, other ≠ site → view.node? later other = view.node? earlier other
  places : ∀ place, view.site? later place = view.site? earlier place

end PathView

/-- What is documented of a system of paths, and what is expected of what serves it. -/
structure PathSystem.Lawful {World Place Site : Type} (paths : PathSystem World Place)
    (view : PathView World Place Site) : Prop where
  /-- Missing directories on the way are made as needed. -/
  gains : ∀ world place,
    view.GainsDirectories world (paths.makeDirectory world place).2 place
  /-- Names in a directory lead to different sites. -/
  apart : ∀ world directory first second site,
    view.site? world (paths.child directory first) = some site →
      view.site? world (paths.child directory second) = some site → first = second
  /-- A file is not written where a directory is, or where its path leads nowhere. -/
  refused : ∀ world place text, ¬ view.CanOpen world place →
    ∃ fault, paths.writeText world place text = (.error fault, world)
  /-- Otherwise the text is written. -/
  written : ∀ world place text site, view.site? world place = some site →
    view.node? world site ≠ some .directory → Text.hasHalf text = false →
      ∃ later, paths.writeText world place text = (.ok (), later) ∧
        view.Changes world later site (Text.bytes text)
  /-- The file is opened before it is found that its text has no bytes. -/
  emptied : ∀ world place text site stray, view.site? world place = some site →
    view.node? world site ≠ some .directory → Text.encode text = .error stray →
      ∃ later, paths.writeText world place text = (.error (.notEncodable stray), later) ∧
        view.Changes world later site .empty

variable {World Place Site : Type} {paths : PathSystem World Place}
  {view : PathView World Place Site}

/-- Files in a directory get their contents, and nothing else changes. -/
structure PathSystem.Writes (paths : PathSystem World Place) (view : PathView World Place Site)
    (earlier later : World) (directory : Place) (contents : List (String × ByteArray)) :
    Prop where
  written : ∀ content ∈ contents, ∃ site,
    view.site? earlier (paths.child directory content.1) = some site ∧
      view.node? later site = some (.file content.2)
  others : ∀ site, (∀ content ∈ contents,
      view.site? earlier (paths.child directory content.1) ≠ some site) →
    view.node? later site = view.node? earlier site
  places : ∀ place, view.site? later place = view.site? earlier place

namespace PathSystem.Writes

variable {earlier middle later : World} {directory : Place} {name : String}
  {contents more : List (String × ByteArray)}

theorem nil (world : World) (directory : Place) : paths.Writes view world world directory [] :=
  ⟨by simp, fun _ _ => rfl, fun _ => rfl⟩

theorem single {site : Site} {content : ByteArray}
    (found : view.site? earlier (paths.child directory name) = some site)
    (changes : view.Changes earlier later site content) :
    paths.Writes view earlier later directory [(name, content)] where
  written := by
    rw [List.forall_mem_singleton]
    exact ⟨site, found, changes.changed⟩
  others other different := by
    rw [List.forall_mem_singleton, found] at different
    exact changes.others other fun same => different (congrArg some same.symm)
  places := changes.places

/-- A site is not changed by files with other names than that which leads to it. -/
theorem node?_eq (lawful : paths.Lawful view)
    (writes : paths.Writes view earlier later directory contents) {site : Site}
    (found : view.site? earlier (paths.child directory name) = some site)
    (fresh : ∀ content ∈ contents, content.1 ≠ name) :
    view.node? later site = view.node? earlier site := by
  apply writes.others
  intro content member sameSite
  exact fresh content member (lawful.apart _ _ _ _ _ sameSite found)

/-- Files are written after files with other names. -/
theorem append (lawful : paths.Lawful view)
    (first : paths.Writes view earlier middle directory contents)
    (second : paths.Writes view middle later directory more)
    (fresh : ∀ content ∈ contents, ∀ other ∈ more, content.1 ≠ other.1) :
    paths.Writes view earlier later directory (contents ++ more) where
  written := by
    rw [List.forall_mem_append]
    constructor
    · intro content member
      obtain ⟨site, found, written⟩ := first.written content member
      have kept : view.node? later site = view.node? middle site :=
        second.node?_eq lawful (by rw [first.places, found])
          fun other isOther => (fresh content member other isOther).symm
      exact ⟨site, found, kept.trans written⟩
    · intro content member
      obtain ⟨site, found, written⟩ := second.written content member
      exact ⟨site, by rw [← first.places, found], written⟩
  others site different := by
    rw [List.forall_mem_append] at different
    rw [second.others site fun content member => by
      rw [first.places]
      exact different.2 content member]
    exact first.others site different.1
  places place := (second.places place).trans (first.places place)

end PathSystem.Writes

/-! ## A row of files -/

variable {world : World} {directory : Place} {files rest : List (String × String)}
  {blocked : String × String}

namespace PathSystem.Lawful

end PathSystem.Lawful

end ApiScaffold
