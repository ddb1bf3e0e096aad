import ApiScaffold.CommandLine.Command
import ApiScaffold.CommandLine.Terminal
import ApiScaffold.Compilation.Basic
import ApiScaffold.Configuration.File

/-!
# Running a command

A command leaves an exit code and what was printed.  Generated text goes to the standard
output, and so do the paths of files that were written.  A documented failure is printed
as an error; any other failure ends the program.
-/

namespace ApiScaffold.CommandLine

/-- What a command leaves. -/
structure Report where
  exitCode : Nat
  /-- The standard output. -/
  output : String
  /-- The error output. -/
  errors : String
  /-- The failure that ended the program. -/
  escaped : Option Failure

/-- The version of the program. -/
def programVersion : String := "0.1.0"

/-- How the program is called. -/
def usage : String :=
  "Usage: apiforge [--help] COMMAND\n\n" ++
    "  generate SOURCE [-t TARGET] [-o OUTPUT] [-c CONFIG] [--no-routes] [-v]\n" ++
    "  version\n"

/-- A command that prints one text after the other and then comes to its end.  A text that has
no bytes ends the program before it is printed. -/
def Report.printing (printed : String) : List String → Report
  | [] => ⟨0, printed, "", none⟩
  | text :: rest =>
      match Text.strayHalves? text with
      | some stray => ⟨1, printed, "", some (.fault (.notEncodable stray))⟩
      | none => Report.printing (printed ++ text) rest

/-- Words that make no command. -/
def Report.misuse : Report :=
  ⟨2, "", usage, none⟩

/-- A failure: the documented ones are printed, with escapes for what has no bytes. -/
def Report.ofFailure (failure : Failure) : Report :=
  if failure.isDocumented then
    ⟨1, "", Text.escapeHalves (terminalText "Error: " failure.message) ++ "\n", none⟩
  else ⟨1, "", "", some failure⟩

/-- What is printed for a delivery. -/
def deliveryTexts : Delivery → List String
  | .text content => [withoutControlSequences content]
  | .files paths =>
      "Generated files:\n" :: paths.map fun path => terminalText "  - " path ++ "\n"

/-- A configuration with the overrides of a request. -/
def GenerateRequest.override (request : GenerateRequest) (configuration : Configuration) :
    Configuration :=
  { target := request.target.getD configuration.target
    models := configuration.models
    routes := configuration.routes && !request.withoutRoutes
    output := request.output <|> configuration.output }

/-- The compilation that a request asks for. -/
def GenerateRequest.compilation (request : GenerateRequest) (storage : Storage) :
    Outcome Compilation := do
  let configuration ← Configuration.load storage request.configuration
  pure ⟨.file request.source, request.override configuration⟩

section

variable {World Place : Type} (paths : PathSystem World Place) (storage : Storage)
  (world : World)

/-- Generate what is requested. -/
def GenerateRequest.run (request : GenerateRequest) : Report × World :=
  match request.compilation storage with
  | .error failure => (.ofFailure failure, world)
  | .ok compilation =>
      match compilation.generate paths storage world with
      | (.error failure, world) => (.ofFailure failure, world)
      | (.ok delivery, world) => (.printing "" (deliveryTexts delivery), world)

/-- Run a command. -/
def Command.run (command : Command) : Report × World :=
  match command with
  | .generate request => request.run paths storage world
  | .version => (.printing "" ["apiforge version: " ++ programVersion ++ "\n"], world)
  | .help => (.printing "" [usage], world)

/-- Run the command that the words of a command line make. -/
def run (words : List String) : Report × World :=
  match Command.ofWords words with
  | .ok command => command.run paths storage world
  | .error _ => (.misuse, world)

/-- Words that make no command change nothing. -/
theorem run_of_misuse {words : List String} {fault : UsageFault}
    (misused : Command.ofWords words = .error fault) :
    run paths storage world words = (.misuse, world) := by
  simp [run, misused]

end

end ApiScaffold.CommandLine
