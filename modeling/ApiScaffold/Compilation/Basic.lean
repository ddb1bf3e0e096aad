import ApiScaffold.Compilation.Delivery
import ApiScaffold.Configuration.Basic
import ApiScaffold.Document.File
import ApiScaffold.Service.Build

/-!
# Compilations

A compilation takes a document through all steps: it is loaded, its service is built,
and the code for the configured target is rendered and delivered.  That the target
exists is checked before anything else.
-/

namespace ApiScaffold

/-- Where a document comes from. -/
inductive DocumentSource where
  /-- A file at a path. -/
  | file (path : String)
  /-- A decoded value. -/
  | data (content : Decoded)

/-- A document and how it is compiled. -/
structure Compilation where
  source : DocumentSource
  configuration : Configuration

namespace Compilation

/-- The document. -/
def document (compilation : Compilation) (storage : Storage) : Outcome Document :=
  match compilation.source with
  | .file path => Document.load storage none path
  | .data content => Document.ofData content Document.anonymousName

/-- The service of the document. -/
def service (compilation : Compilation) (storage : Storage) : Outcome Service := do
  let document ← compilation.document storage
  document.service

/-- What is generated; the code is checked. -/
def options (compilation : Compilation) : EmissionOptions :=
  ⟨compilation.configuration.models, compilation.configuration.routes, true⟩

/-- The target and the service. -/
def prepare (compilation : Compilation) (storage : Storage) : Outcome (Target × Service) := do
  let target ← Target.ofName compilation.configuration.target
  let service ← compilation.service storage
  pure (target, service)

/-- The code as one text. -/
def render (compilation : Compilation) (storage : Storage) : Outcome String := do
  let (target, service) ← compilation.prepare storage
  target.renderModule service compilation.options

/-- Where the code goes. -/
def sink (compilation : Compilation) : Sink :=
  match compilation.configuration.output with
  | none => .text
  | some path => if path.isEmpty then .text else .directory path

/-- Generate the code and deliver it.  The document is in the storage, and the files go into
the world of the paths for output, which can be the storage itself. -/
def generate {World Place : Type} (compilation : Compilation)
    (paths : PathSystem World Place) (storage : Storage) (world : World) :
    Outcome Delivery × World :=
  match compilation.prepare storage with
  | .error failure => (.error failure, world)
  | .ok (target, service) =>
      compilation.sink.deliver paths world target service compilation.options

end Compilation

end ApiScaffold
