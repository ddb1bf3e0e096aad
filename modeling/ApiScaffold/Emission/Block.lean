import ApiScaffold.Service.Basic

/-!
# Blocks of generated code

The code of a service is made of blocks: one for the named structs, if they are wanted,
and one for each operation, which holds the structs of its input and its output.
-/

namespace ApiScaffold

/-- The block of an operation: its input and its output, set apart by an empty line. -/
def operationBlock (renderInput renderOutput : Operation → Outcome String)
    (operation : Operation) : Outcome String := do
  let input ← renderInput operation
  let output ← renderOutput operation
  pure (input ++ "\n\n" ++ output)

/-- The block of the named structs, if it is wanted, and those of the operations. -/
def codeBlocks (wanted : Bool) (models : Outcome String)
    (renderOperation : Operation → Outcome String) (operations : List Operation) :
    Outcome (List String) := do
  let first ← if wanted then models.map fun block => [block] else pure []
  let others ← operations.mapM renderOperation
  pure (first ++ others)

/-- Without the named structs there is one block for each operation. -/
theorem codeBlocks_false (models : Outcome String)
    (renderOperation : Operation → Outcome String) (operations : List Operation) :
    codeBlocks false models renderOperation operations = operations.mapM renderOperation := by
  cases equal : operations.mapM renderOperation <;>
    simp [codeBlocks, equal, bind, Except.bind, pure, Except.pure]

end ApiScaffold
