import ApiScaffold.Collection.Entries
import ApiScaffold.Emission.PythonLibrary
import ApiScaffold.Emission.PythonTree

/-!
# The imports of a Python module

Imports are collected while a module is put together.  The block of imports lists
every module once: modules of the language itself come first, then those of its
library, then other packages, then modules of the same package.  Within a section the
modules ascend, and so do the names of each.
-/

namespace ApiScaffold.PythonCode

/-- The sections of the block of imports. -/
inductive ImportSection where
  | future
  | library
  | package
  | relative
  deriving DecidableEq, Repr

/-- The place of a section in the block. -/
def ImportSection.rank : ImportSection → Nat
  | .future => 0
  | .library => 1
  | .package => 2
  | .relative => 3

/-- The module that names future features of the language. -/
def futureModule : String := "__future__"

/-- The section that a module belongs to. -/
def sectionOf (module : String) : ImportSection :=
  if module = futureModule then .future
  else if module.toList.head? = some '.' then .relative
  else if isLibraryModule module then .library
  else .package

/-- The names that are imported, module by module. -/
structure Imports where
  modules : Entries String (List String)

namespace Imports

/-- No imports. -/
def empty : Imports :=
  ⟨[]⟩

/-- Import names from a module; without names the module is only mentioned. -/
def addAll (imports : Imports) (module : String) (names : List String) : Imports :=
  let known := (imports.modules.get? module).getD []
  ⟨imports.modules.put module (known ++ names.filter fun name => !known.contains name)⟩

/-- Import a name from a module. -/
def add (imports : Imports) (module name : String) : Imports :=
  imports.addAll module [name]

/-- Import names from several modules. -/
def addEach (imports : Imports) (modules : List (String × List String)) : Imports :=
  modules.foldl (fun current entry => current.addAll entry.1 entry.2) imports

/-- Whether a module comes before another one. -/
def precedes (first second : String) : Bool :=
  let firstRank := (sectionOf first).rank
  let secondRank := (sectionOf second).rank
  firstRank < secondRank || (firstRank = secondRank && decide (first ≤ second))

/-- Names in ascending order, each once. -/
def sortedNames (names : List String) : List String :=
  (names.mergeSort fun first second => decide (first ≤ second)).eraseDups

/-- The import of the names of one module. -/
def statement (module : String) (names : List String) : Import :=
  let dots := module.toList.takeWhile fun char => char = '.'
  { level := dots.length
    module := String.ofList (module.toList.drop dots.length)
    names := sortedNames names }

/-- The block of imports. -/
def block (imports : Imports) : List Import :=
  (imports.modules.mergeSort fun first second => precedes first.1 second.1).map fun entry =>
    statement entry.1 entry.2

/-- Whether anything is imported. -/
def isPresent (imports : Imports) : Bool :=
  !imports.modules.isEmpty

/-- The modules in ascending order. -/
def sortedModules (imports : Imports) : List String :=
  imports.modules.keys.mergeSort fun first second => decide (first ≤ second)

end Imports

end ApiScaffold.PythonCode
