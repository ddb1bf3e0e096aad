import ApiScaffold.CommandLine.Arguments

/-!
# Commands

The first argument is the command, the others belong to it.  `generate` takes the path of
a document; its options override the configuration.
-/

namespace ApiScaffold.CommandLine

/-- What to generate. -/
structure GenerateRequest where
  /-- The path of the document. -/
  source : String
  target : Option String
  output : Option String
  /-- The path of the configuration. -/
  configuration : Option String
  withoutRoutes : Bool
  verbose : Bool
  deriving DecidableEq, Repr

/-- What to do. -/
inductive Command where
  | generate (request : GenerateRequest)
  | version
  | help
  deriving DecidableEq, Repr

/-- The option that asks for help. -/
def helpForm : OptionForm := ⟨"help", none, false⟩

/-- The options of `generate`. -/
def generateForms : List OptionForm :=
  [⟨"target", some 't', true⟩, ⟨"output", some 'o', true⟩, ⟨"config", some 'c', true⟩,
   ⟨"no-routes", none, false⟩, ⟨"verbose", some 'v', false⟩, helpForm]

/-- The command `generate` with its words. -/
def generateCommand (words : Words) : Except UsageFault Command :=
  if words.has "help" then .ok .help
  else
    match words.arguments with
    | [] => .error (.missingArgument "source")
    | [source] =>
        .ok (.generate
          { source
            target := words.value? "target"
            output := words.value? "output"
            configuration := words.value? "config"
            withoutRoutes := words.has "no-routes"
            verbose := words.has "verbose" })
    | _ :: extra :: _ => .error (.unexpectedArgument extra)

/-- The command `version` with its words. -/
def versionCommand (words : Words) : Except UsageFault Command :=
  if words.has "help" then .ok .help
  else
    match words.arguments with
    | [] => .ok .version
    | extra :: _ => .error (.unexpectedArgument extra)

/-- The command with a name. -/
def namedCommand (name : String) (rest : List String) : Except UsageFault Command :=
  if name = "generate" then do
    let words ← readWords generateForms none rest
    generateCommand words
  else if name = "version" then do
    let words ← readWords [helpForm] none rest
    versionCommand words
  else .error (.unknownCommand name)

/-- The command that the words of a command line make. -/
def Command.ofWords : List String → Except UsageFault Command
  | [] => .error .missingCommand
  | first :: rest => do
      match ← readWord [helpForm] first with
      | .options _ _ => pure .help
      | .argument => namedCommand first rest
      | .endOfOptions =>
          match rest with
          | [] => .error .missingCommand
          | name :: rest => namedCommand name rest

end ApiScaffold.CommandLine
