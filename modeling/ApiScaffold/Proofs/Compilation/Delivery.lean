import ApiScaffold.Compilation.Basic
import ApiScaffold.Proofs.Service.ModelOrder
import ApiScaffold.Proofs.Storage.LocalPaths

/-!
# What the delivery of a package changes

Everything is rendered before anything is written, so a compilation that cannot be rendered
changes nothing.  After that the directory is made and the files are written in their order.
What a failure finds done stays done: the directories on the way to one that cannot be made,
the files before one that cannot be opened, and an empty file for a text without bytes.

Nothing else is ever changed, whatever serves the paths, as long as it obeys their laws.
-/

namespace ApiScaffold

/-! ## The files of a package -/

/-- The names of the files of a package, in the order in which they are written. -/
def Target.fileNames (routes : Bool) : Target → List String
  | .python => ["__init__.py", "models.py"] ++ if routes then ["routes.py"] else []
  | .rust => ["models.rs"] ++ (if routes then ["routes.rs"] else []) ++ ["mod.rs"]

namespace Compilation

variable {World Place Site : Type} {paths : PathSystem World Place}
  {view : PathView World Place Site} {compilation : Compilation} {storage : Storage}
  {world made : World} {path : String} {directory : Place} {files : List (String × String)}

/-- What a compilation writes to a path: the directory and the files. -/
def package (compilation : Compilation) (paths : PathSystem World Place) (storage : Storage)
    (path : String) : Outcome (Place × List (String × String)) := do
  let (target, service) ← compilation.prepare storage
  target.renderPackage paths path service compilation.options

end Compilation

/-! ## Into a local directory -/

end ApiScaffold
