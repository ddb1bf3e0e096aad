import ApiScaffold.Document.Basic
import ApiScaffold.Document.Pointer
import ApiScaffold.Failure

/-!
# Following pointers

A pointer is looked up among the definitions of its section.  What it leads to may
itself be given by a pointer, so pointers form chains.  A chain either ends at a
definition, or leads to a name without a definition, or comes back to a pointer
that was followed before.

There are only finitely many definitions, so a chain that is longer than their
number has come back; `followPointers` may therefore stop there.
-/

namespace ApiScaffold

/-- Objects that are defined in a section of the components. -/
class Component (α : Type) where
  /-- The definitions of the section. -/
  definitions : Document → Entries String α

/-- Objects that may be given by a pointer instead. -/
class Referable (α : Type) extends Component α where
  /-- The pointer that stands for the object. -/
  ref : α → Option String

instance : Component SchemaObject :=
  ⟨Document.schemas⟩

instance : Referable ParameterObject :=
  { definitions := Document.parameters, ref := ParameterObject.ref }

instance : Referable RequestBodyObject :=
  { definitions := Document.requestBodies, ref := RequestBodyObject.ref }

instance : Referable ResponseObject :=
  { definitions := Document.responses, ref := ResponseObject.ref }

instance : Referable HeaderObject :=
  { definitions := Document.headers, ref := HeaderObject.ref }

namespace Document

/-- The entry of a section that a pointer leads to. -/
def lookupIn {α : Type} (document : Document) (definitions : Entries String α)
    (pointer : String) (context : Option String) : Outcome α :=
  if document.components.isNone then .error (.missingComponents pointer)
  else
    match definitions.get? (pointerName pointer) with
    | some definition => .ok definition
    | none => .error (.unresolvedReference (some pointer) context)

/-- The definition that a pointer leads to. -/
def lookup {α : Type} [Component α] (document : Document) (pointer : String)
    (context : Option String) : Outcome α :=
  document.lookupIn (Component.definitions document) pointer context

/-- Follow pointers from an item to a definition.  `seen` holds the pointers that were
followed, and at most `steps` more are. -/
def followPointers {α : Type} [Referable α] (document : Document) (context : Option String) :
    Nat → List String → α → Outcome α
  | steps, seen, item =>
      match Referable.ref item with
      | none => .ok item
      | some pointer =>
          if seen.contains pointer then .error (.cycle ((seen ++ [pointer]).map some))
          else
            match steps with
            | 0 => .error (.cycle ((seen ++ [pointer]).map some))
            | steps + 1 =>
                match document.lookup pointer context with
                | .error failure => .error failure
                | .ok definition =>
                    document.followPointers context steps (seen ++ [pointer]) definition
termination_by structural steps => steps

/-- The definition that an item stands for. -/
def resolve {α : Type} [Referable α] (document : Document) (item : α)
    (context : Option String) : Outcome α :=
  document.followPointers context
    ((Component.definitions (α := α) document).length + 1) [] item

end Document

/-- The sections of the components. -/
inductive Section where
  | schemas
  | parameters
  | responses
  | requestBodies
  | headers
  deriving DecidableEq, Repr

namespace Section

/-- The name of a section. -/
def name : Section → String
  | .schemas => "schemas"
  | .parameters => "parameters"
  | .responses => "responses"
  | .requestBodies => "requestBodies"
  | .headers => "headers"

/-- All sections. -/
def all : List Section :=
  [.schemas, .parameters, .responses, .requestBodies, .headers]

/-- The section with a name. -/
def ofName? (name : String) : Option Section :=
  all.find? fun part => part.name = name

/-- The names that a section defines. -/
def definedNames (document : Document) : Section → List String
  | .schemas => document.schemas.keys
  | .parameters => document.parameters.keys
  | .responses => document.responses.keys
  | .requestBodies => document.requestBodies.keys
  | .headers => document.headers.keys

/-- The names that the section with a name defines. -/
def namesIn (document : Document) (name : String) : Outcome (List String) :=
  match ofName? name with
  | some part => .ok (part.definedNames document)
  | none => .error (.fault (.unknownKey (some name)))

end Section

end ApiScaffold
