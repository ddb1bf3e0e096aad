import ApiScaffold.Text.Quoted

/-!
# Python code as a tree

The statements and expressions that generated Python modules are made of, and their
text.  Every statement stands on a line of its own; a class or a function is set off
by an empty line unless it is the first line of the module.
-/

namespace ApiScaffold.PythonCode

/-- An expression. -/
inductive Expression where
  | name (identifier : String)
  | none
  | true
  | integer (value : Int)
  | text (value : String)
  | list (items : List Expression)
  /-- `owner.name` -/
  | member (owner name : String)
  /-- `generic[arguments]` -/
  | generic (base : String) (arguments : List Expression)
  /-- `first | second` -/
  | either (first second : Expression)
  /-- `function(arguments, keyword=value)` -/
  | call (function : Expression) (arguments : List Expression)
      (keywords : List (String × Expression))
  deriving Inhabited

namespace Expression

mutual

/-- The text of an expression. -/
def render : Expression → String
  | .name identifier => identifier
  | .none => "None"
  | .true => "True"
  | .integer value => toString value
  | .text value => Text.quoted value
  | .list items => "[" ++ ", ".intercalate (renderEach items) ++ "]"
  | .member owner part => owner ++ "." ++ part
  | .generic base arguments => base ++ "[" ++ ", ".intercalate (renderEach arguments) ++ "]"
  | .either first second => render first ++ " | " ++ render second
  | .call function arguments keywords =>
      render function ++ "(" ++
        ", ".intercalate (renderEach arguments ++ renderKeywords keywords) ++ ")"
termination_by structural expression => expression

/-- The texts of expressions. -/
def renderEach : List Expression → List String
  | [] => []
  | expression :: rest => render expression :: renderEach rest
termination_by structural expressions => expressions

/-- The texts of keyword arguments. -/
def renderKeywords : List (String × Expression) → List String
  | [] => []
  | (keyword, value) :: rest => (keyword ++ "=" ++ render value) :: renderKeywords rest
termination_by structural keywords => keywords

end

end Expression

/-- A parameter of a function. -/
structure Argument where
  name : String
  type : Expression
  default : Option Expression

/-- The text of a parameter. -/
def Argument.render (argument : Argument) : String :=
  argument.name ++ ": " ++ argument.type.render ++
    (argument.default.map fun value => "=" ++ value.render).getD ""

/-- An import of names from a module. -/
structure Import where
  /-- The number of leading dots of a relative import. -/
  level : Nat
  module : String
  names : List String
  deriving DecidableEq, Repr

/-- The text of an import. -/
def Import.render (statement : Import) : String :=
  "from " ++ String.ofList (List.replicate statement.level '.') ++ statement.module ++ " import " ++
    ", ".intercalate statement.names

/-- A statement on one line, or a documentation block. -/
inductive Line where
  | documentation (text : String)
  /-- `name: annotation = value` -/
  | annotated (name : String) (type : Expression) (value : Option Expression)
  /-- `name = value` -/
  | assignment (name : String) (value : Expression)
  | expression (value : Expression)
  | raise (value : Expression)
  | pass

/-- The text of a line, without its indentation. -/
def Line.render : Line → String
  | .documentation text => Text.documentationBlock text
  | .annotated name type value =>
      name ++ ": " ++ type.render ++
        (value.map fun value => " = " ++ value.render).getD ""
  | .assignment name value => name ++ " = " ++ value.render
  | .expression value => value.render
  | .raise value => "raise " ++ value.render
  | .pass => "pass"

/-- A class with one base class. -/
structure ClassDefinition where
  name : String
  base : String
  body : List Line

/-- An asynchronous function. -/
structure FunctionDefinition where
  name : String
  arguments : List Argument
  result : String
  body : List Line

/-- A statement of a module. -/
inductive Statement where
  | line (line : Line)
  | importFrom (statement : Import)
  | classDefinition (definition : ClassDefinition)
  | function (definition : FunctionDefinition)

/-- The text of an indented body. -/
def renderBody (body : List Line) : String :=
  String.join (body.map fun line => "\n    " ++ line.render)

/-- The text of a class. -/
def ClassDefinition.render (definition : ClassDefinition) : String :=
  "class " ++ definition.name ++ "(" ++ definition.base ++ "):" ++ renderBody definition.body

/-- The text of a function. -/
def FunctionDefinition.render (definition : FunctionDefinition) : String :=
  "async def " ++ definition.name ++ "(" ++
    ", ".intercalate (definition.arguments.map Argument.render) ++ ") -> " ++ definition.result ++
    ":" ++ renderBody definition.body

/-- The text of a statement. -/
def Statement.render : Statement → String
  | .line single => single.render
  | .importFrom statement => statement.render
  | .classDefinition definition => definition.render
  | .function definition => definition.render

/-- Whether a statement is set off from what comes before it. -/
def Statement.isSetOff : Statement → Bool
  | .classDefinition _ | .function _ => true
  | _ => false

/-- The text of a statement that comes after others. -/
def Statement.renderNext (statement : Statement) : String :=
  (if statement.isSetOff then "\n\n" else "\n") ++ statement.render

/-- The text of a module, without a line feed at its end. -/
def renderStatements : List Statement → String
  | [] => ""
  | first :: rest => first.render ++ String.join (rest.map Statement.renderNext)

/-- The words that cannot be the name of a class or of an import. -/
def constantWords : List String :=
  ["None", "True", "False"]

/-- The name that nothing can be given. -/
def debugName : String := "__debug__"

/-- Whether every name that a statement gives may be given. -/
def Statement.isValid : Statement → Bool
  | .line (.annotated name _ _) | .line (.assignment name _) => name != debugName
  | .line _ => true
  | .importFrom statement => statement.names.all fun name => !constantWords.contains name
  | .classDefinition definition =>
      !constantWords.contains definition.name &&
        definition.body.all fun line =>
          match line with
          | .annotated name _ _ | .assignment name _ => name != debugName
          | _ => true
  | .function definition =>
      definition.arguments.all fun argument => argument.name != debugName

end ApiScaffold.PythonCode
