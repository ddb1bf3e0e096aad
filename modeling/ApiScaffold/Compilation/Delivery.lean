import ApiScaffold.Emission.Target
import ApiScaffold.Storage.PathSystem

/-!
# Delivery of generated code

Generated code is delivered either as one text or as the files of a package in a
directory.  All files are rendered before the first one is written.
-/

namespace ApiScaffold

/-- Where generated code goes. -/
inductive Sink where
  | text
  | directory (path : String)
  deriving DecidableEq, Repr

/-- What was delivered. -/
inductive Delivery where
  | text (content : String)
  /-- The paths of the files, in the order in which they were written. -/
  | files (paths : List String)
  deriving DecidableEq, Repr

/-- The texts among what was delivered. -/
def Delivery.texts : Delivery → List String
  | .text content => [content]
  | .files _ => []

/-- The paths among what was delivered. -/
def Delivery.paths : Delivery → List String
  | .text _ => []
  | .files paths => paths

variable {World Place : Type} (paths : PathSystem World Place)

/-- The paths of files in a directory. -/
def packagePaths (directory : Place) (files : List (String × String)) : List String :=
  files.map fun file => paths.text (paths.child directory file.1)

/-- Write files into a directory that is made if it is not there. -/
def writePackage (world : World) (directory : Place) (files : List (String × String)) :
    Outcome Delivery × World :=
  match paths.makeDirectory world directory with
  | (.error fault, world) => (.error (.fault fault), world)
  | (.ok (), world) =>
      match paths.writeTexts directory world files with
      | (.error fault, world) => (.error (.fault fault), world)
      | (.ok (), world) => (.ok (.files (packagePaths paths directory files)), world)

/-- The files of a package and the directory that they go to. -/
def Target.renderPackage (target : Target) (path : String) (service : Service)
    (options : EmissionOptions) : Outcome (Place × List (String × String)) := do
  let directory ← (paths.ofText path).mapError .fault
  let files ← target.renderFiles service options
  pure (directory, files)

/-- Render the code of a service and deliver it. -/
def Sink.deliver (sink : Sink) (world : World) (target : Target) (service : Service)
    (options : EmissionOptions) : Outcome Delivery × World :=
  match sink with
  | .text => ((target.renderModule service options).map .text, world)
  | .directory path =>
      match target.renderPackage paths path service options with
      | .error failure => (.error failure, world)
      | .ok (place, files) => writePackage paths world place files

/-- Deliver the code of a service for the target with a name. -/
def Sink.deliverNamed (sink : Sink) (world : World) (target : String) (service : Service)
    (options : EmissionOptions) : Outcome Delivery × World :=
  match Target.ofName target with
  | .error failure => (.error failure, world)
  | .ok target => sink.deliver paths world target service options

/-- Deliver the code of a service for several targets, each whether or not those before it
failed. -/
def Sink.deliverAll (sink : Sink) (service : Service) (options : EmissionOptions) :
    World → List String → List (Outcome Delivery) × World
  | world, [] => ([], world)
  | world, target :: rest =>
      let (delivery, world) := sink.deliverNamed paths world target service options
      let (deliveries, world) := sink.deliverAll service options world rest
      (delivery :: deliveries, world)

end ApiScaffold
