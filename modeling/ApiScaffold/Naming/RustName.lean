import ApiScaffold.Naming.SnakeCase

/-!
# Names in generated Rust code

Fields and functions are named in snake case.  A keyword is written as a raw
identifier, except for the few that cannot be raw, which get an underscore at
their end.
-/

namespace ApiScaffold.Naming

/-- The keywords, the reserved ones included. -/
def rustKeywords : List String :=
  ["as", "async", "await", "break", "const", "continue", "crate", "dyn", "else", "enum",
   "extern", "false", "fn", "for", "if", "impl", "in", "let", "loop", "match", "mod", "move",
   "mut", "pub", "ref", "return", "self", "static", "struct", "super", "trait", "true", "type",
   "unsafe", "use", "where", "while", "abstract", "become", "box", "do", "final", "macro",
   "override", "priv", "try", "typeof", "unsized", "virtual", "yield"]

/-- The keywords that cannot be raw identifiers. -/
def pathKeywords : List String :=
  ["crate", "self", "super", "Self"]

/-- The mark of a raw identifier. -/
def rawMark : String := "r#"

/-- The field or function name of a document name. -/
def rustName (name : String) : String :=
  let chars :=
    match snakeCaseChars name with
    | [] => "field".toList
    | chars => chars
  let identifier := String.ofList (guardDigit chars)
  if identifier ∈ pathKeywords then identifier ++ "_"
  else if identifier ∈ rustKeywords then rawMark ++ identifier
  else identifier

/-- An identifier without the mark of a raw one. -/
def withoutRawMark (identifier : String) : String :=
  if rawMark.toList.isPrefixOf identifier.toList then
    String.ofList (identifier.toList.drop rawMark.length)
  else identifier

example : rustName "type" = "r#type" ∧ rustName "self" = "self_" := by
  decide +kernel

end ApiScaffold.Naming
