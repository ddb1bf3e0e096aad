import ApiScaffold.Naming.Words

/-!
# Snake case

`snakeCase` writes the words of a name in lower case with underscores between
them.  Capitals inside a word start a new one: after a small letter or a digit,
and at the last capital of a row of capitals that a small letter follows, so that
`HTTPServer` becomes `http_server`.
-/

namespace ApiScaffold.Naming

/-- Whether a new word starts at a character, given its neighbours. -/
def startsWord (previous : Option Char) (char : Char) (next : Option Char) : Bool :=
  char.isUpper &&
    match previous with
    | none => false
    | some before =>
        before.isLower || before.isDigit || (before.isUpper && (next.map Char.isLower).getD false)

/-- Put an underscore where a word starts inside a run of letters and digits. -/
def separateWords (previous : Option Char) : List Char → List Char
  | [] => []
  | char :: rest =>
      if startsWord previous char rest.head? then '_' :: char :: separateWords (some char) rest
      else char :: separateWords (some char) rest

/-- The characters of a name in snake case. -/
def snakeCaseChars (name : String) : List Char :=
  (List.intersperse ['_'] (runs (separateWords none (Text.baseText name)))).flatten.map Char.toLower

/-- A name in snake case. -/
def snakeCase (name : String) : String :=
  String.ofList (snakeCaseChars name)

example : snakeCase "HTTPServer" = "http_server" ∧ snakeCase "X-Rate-Limit" = "x_rate_limit" := by
  decide +kernel

end ApiScaffold.Naming
