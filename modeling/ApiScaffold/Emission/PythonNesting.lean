import ApiScaffold.Emission.PythonTree

/-!
# How deeply Python code is nested

A program text is only read if its brackets are not nested too deeply.  They are counted here,
expression by expression and statement by statement.
-/

namespace ApiScaffold.PythonCode

/-- The largest of some numbers. -/
def largest (numbers : List Nat) : Nat :=
  numbers.foldl max 0

namespace Expression

mutual

/-- How deeply the brackets of an expression are nested. -/
def bracketDepth : Expression → Nat
  | .name _ | .none | .true | .integer _ | .text _ | .member _ _ => 0
  | .list items => largest (bracketDepths items) + 1
  | .generic _ arguments => largest (bracketDepths arguments) + 1
  | .either first second => max (bracketDepth first) (bracketDepth second)
  | .call function arguments keywords =>
      max (bracketDepth function)
        (largest (bracketDepths arguments ++ keywordDepths keywords) + 1)
termination_by structural expression => expression

/-- How deeply the brackets of expressions are nested. -/
def bracketDepths : List Expression → List Nat
  | [] => []
  | expression :: rest => bracketDepth expression :: bracketDepths rest
termination_by structural expressions => expressions

/-- How deeply the brackets of keyword arguments are nested. -/
def keywordDepths : List (String × Expression) → List Nat
  | [] => []
  | (_, value) :: rest => bracketDepth value :: keywordDepths rest
termination_by structural keywords => keywords

end

end Expression

/-- How deeply the brackets of a line are nested. -/
def Line.bracketDepth : Line → Nat
  | .documentation _ | .pass => 0
  | .annotated _ type value =>
      max type.bracketDepth ((value.map Expression.bracketDepth).getD 0)
  | .assignment _ value | .expression value | .raise value => value.bracketDepth

/-- How deeply the brackets of a parameter are nested. -/
def Argument.bracketDepth (argument : Argument) : Nat :=
  max argument.type.bracketDepth ((argument.default.map Expression.bracketDepth).getD 0)

/-- How deeply the brackets of a statement are nested. -/
def Statement.bracketDepth : Statement → Nat
  | .line single => single.bracketDepth
  | .importFrom _ => 0
  | .classDefinition definition => max 1 (largest (definition.body.map Line.bracketDepth))
  | .function definition =>
      max (largest (definition.arguments.map Argument.bracketDepth) + 1)
        (largest (definition.body.map Line.bracketDepth))

/-- How deeply brackets can be nested. -/
def bracketLimit : Nat := 200

/-- Whether the text of a statement can be read again. -/
def Statement.isReadable (statement : Statement) : Bool :=
  statement.isValid && statement.bracketDepth ≤ bracketLimit

end ApiScaffold.PythonCode
