/-!
# Options and arguments

The words of a command line are options, values of options, and arguments.  An option
has a long name, which follows two dashes, and may have a letter, which follows one dash.
A value is the next word, whatever it looks like, or is attached: behind an equals sign
after a long name, directly behind a letter.  Several letters may share one dash.

Options and arguments may be mixed.  Two dashes alone end the options; one dash alone is
an argument.
-/

namespace ApiScaffold.CommandLine

/-- An option that a command knows. -/
structure OptionForm where
  long : String
  letter : Option Char
  takesValue : Bool
  deriving DecidableEq, Repr

/-- Why words make no command. -/
inductive UsageFault where
  | unknownOption (word : String)
  | missingValue (option : String)
  | unexpectedValue (option : String)
  | missingArgument (name : String)
  | unexpectedArgument (word : String)
  | unknownCommand (word : String)
  | missingCommand
  deriving DecidableEq, Repr

/-- An option that was given: its long name, and its value if it takes one. -/
structure GivenOption where
  long : String
  value : Option String
  deriving DecidableEq, Repr

/-- The options and the arguments of a command. -/
structure Words where
  options : List GivenOption
  arguments : List String
  deriving DecidableEq, Repr

/-- What one word says. -/
inductive WordMeaning where
  | argument
  /-- The end of the options. -/
  | endOfOptions
  /-- Options; the next word is the value of `awaiting`, if there is one. -/
  | options (given : List GivenOption) (awaiting : Option String)
  deriving DecidableEq, Repr

/-- The options behind one dash. -/
def readLetters (forms : List OptionForm) : List Char → Except UsageFault WordMeaning
  | [] => .ok (.options [] none)
  | letter :: rest =>
      match forms.find? fun form => form.letter = some letter with
      | none => .error (.unknownOption (String.ofList ['-', letter]))
      | some form =>
          if form.takesValue then
            if rest.isEmpty then .ok (.options [] (some form.long))
            else .ok (.options [⟨form.long, some (String.ofList rest)⟩] none)
          else do
            match ← readLetters forms rest with
            | .options given awaiting => pure (.options (⟨form.long, none⟩ :: given) awaiting)
            | other => pure other

/-- What an option with a long name says; `attached` is the value behind an equals sign. -/
def readLong (form : OptionForm) (attached : Option String) : Except UsageFault WordMeaning :=
  match form.takesValue, attached with
  | true, some value => .ok (.options [⟨form.long, some value⟩] none)
  | true, none => .ok (.options [] (some form.long))
  | false, some _ => .error (.unexpectedValue form.long)
  | false, none => .ok (.options [⟨form.long, none⟩] none)

/-- What follows the first equals sign, if there is one. -/
def attachedValue (chars : List Char) : Option String :=
  match chars.dropWhile fun char => char != '=' with
  | [] => none
  | _ :: value => some (String.ofList value)

/-- What a word says. -/
def readWord (forms : List OptionForm) (word : String) : Except UsageFault WordMeaning :=
  match word.toList with
  | ['-', '-'] => .ok .endOfOptions
  | '-' :: '-' :: rest =>
      let long := String.ofList (rest.takeWhile fun char => char != '=')
      match forms.find? fun form => form.long = long with
      | some form => readLong form (attachedValue rest)
      | none => .error (.unknownOption word)
  | '-' :: letter :: rest => readLetters forms (letter :: rest)
  | _ => .ok .argument

/-- Put options in front of those that follow. -/
def Words.withOptions (words : Words) (given : List GivenOption) : Words :=
  { words with options := given ++ words.options }

/-- Put an argument in front of those that follow. -/
def Words.withArgument (words : Words) (argument : String) : Words :=
  { words with arguments := argument :: words.arguments }

/-- The options and the arguments among the words of a command.  The option that waits for
its value takes the first word. -/
def readWords (forms : List OptionForm) : Option String → List String → Except UsageFault Words
  | none, [] => .ok ⟨[], []⟩
  | some long, [] => .error (.missingValue long)
  | some long, value :: rest => do
      let words ← readWords forms none rest
      pure (words.withOptions [⟨long, some value⟩])
  | none, word :: rest => do
      match ← readWord forms word with
      | .endOfOptions => pure ⟨[], rest⟩
      | .argument => do
          let words ← readWords forms none rest
          pure (words.withArgument word)
      | .options given awaiting => do
          let words ← readWords forms awaiting rest
          pure (words.withOptions given)

/-- Whether an option was given. -/
def Words.has (words : Words) (long : String) : Bool :=
  words.options.any fun given => given.long = long

/-- The value of an option; of several values the last one counts. -/
def Words.value? (words : Words) (long : String) : Option String :=
  (words.options.reverse.find? fun given => given.long = long).bind GivenOption.value

/-- Words that do not start with a dash are arguments. -/
theorem readWord_argument (forms : List OptionForm) {word : String}
    (plain : word.toList.head? ≠ some '-') : readWord forms word = .ok .argument := by
  unfold readWord
  split
  · next equal => simp [equal] at plain
  · next equal => simp [equal] at plain
  · next equal => simp [equal] at plain
  · rfl

/-- Behind two dashes every word is an argument. -/
theorem readWords_endOfOptions (forms : List OptionForm) (rest : List String) :
    readWords forms none ("--" :: rest) = .ok ⟨[], rest⟩ := by
  have meaning : readWord forms "--" = .ok .endOfOptions := by
    simp [readWord]
  simp [readWords, meaning, bind, Except.bind, pure, Except.pure]

end ApiScaffold.CommandLine
