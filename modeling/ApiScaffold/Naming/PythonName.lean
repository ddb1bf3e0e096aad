import ApiScaffold.Naming.SnakeCase
import ApiScaffold.Text.Blank

/-!
# Names in generated Python code

A field or argument keeps the document's spelling as far as an identifier allows:
separators become underscores, other characters that cannot stand in an identifier
are left out, and a keyword gets an underscore at its end.  Only the empty name
has no field name.
-/

namespace ApiScaffold.Naming

/-- The keywords, the soft ones included. -/
def pythonKeywords : List String :=
  ["False", "None", "True", "and", "as", "assert", "async", "await", "break", "class",
   "continue", "def", "del", "elif", "else", "except", "finally", "for", "from", "global",
   "if", "import", "in", "is", "lambda", "nonlocal", "not", "or", "pass", "raise", "return",
   "try", "while", "with", "yield", "_", "case", "match"]

/-- A dash, a dot or a blank. -/
def isSeparator (char : Char) : Bool :=
  char = '-' || char = '.' || Text.isBlank char

/-- Replace each row of separators by an underscore.  The flag says whether the
character before was a separator. -/
def joinSeparators (afterSeparator : Bool) : List Char → List Char
  | [] => []
  | char :: rest =>
      if isSeparator char then
        if afterSeparator then joinSeparators true rest else '_' :: joinSeparators true rest
      else char :: joinSeparators false rest

/-- A letter, a digit or an underscore of ASCII. -/
def isIdentifierChar (char : Char) : Bool :=
  char.isAlphanum || char = '_'

/-- The identifier of a document name, before keywords are avoided. -/
def identifierChars (name : String) : List Char :=
  match guardDigit ((joinSeparators false (Text.baseText name)).filter isIdentifierChar) with
  | [] => ['_']
  | chars => chars

/-- The field or argument name of a document name. -/
def fieldName? (name : String) : Option String :=
  if name.isEmpty then none
  else
    let identifier := String.ofList (identifierChars name)
    some (if identifier ∈ pythonKeywords then identifier ++ "_" else identifier)

theorem fieldName?_eq_none_iff (name : String) : fieldName? name = none ↔ name = "" := by
  rw [← String.isEmpty_iff]
  unfold fieldName?
  split <;> simp_all

example : fieldName? "x-rate limit" = some "x_rate_limit" ∧ fieldName? "class" = some "class_" := by
  decide +kernel

end ApiScaffold.Naming
