import ApiScaffold.Naming.Words

/-!
# Type names

A type name runs the words of a document name together and gives each word a
capital first letter: `pet-tag` becomes `PetTag`.  A name without words becomes
`UnnamedType`.
-/

namespace ApiScaffold.Naming

/-- Give a word a capital first letter. -/
def capitalise : List Char → List Char
  | [] => []
  | char :: rest => char.toUpper :: rest

/-- The characters of the type name of a document name. -/
def typeNameChars (name : String) : List Char :=
  match guardDigit ((words name).flatMap capitalise) with
  | [] => "UnnamedType".toList
  | chars => chars

/-- The type name of a document name. -/
def typeName (name : String) : String :=
  String.ofList (typeNameChars name)

/-- The operation id of a route that declares none. -/
def routeName (method path : String) : String :=
  typeName (method ++ "_" ++ path)

example : typeName "pet-tag" = "PetTag" ∧ typeName "" = "UnnamedType" := by
  decide +kernel

example : routeName "get" "/pets/\x7bpetId\x7d" = "GetPetsPetId" := by
  decide +kernel

end ApiScaffold.Naming
