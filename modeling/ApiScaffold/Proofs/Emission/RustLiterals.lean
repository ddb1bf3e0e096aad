import ApiScaffold.Data.Json

/-!
# Reading Rust text literals

A text literal ends with the first quote that is not escaped.  A backslash starts an escape: of a
quote, of a backslash, of a few control characters, of a character by its code, or of the end of a
line, which is left out with the blanks after it.  The end of a line may be written with a return,
but there is no return by itself.

A text that is put between quotes as it is denotes itself exactly if it has no quote, no
backslash and no return.
-/

namespace ApiScaffold.RustCode

/-! ## The reader -/

/-- What has been read of an escape or of the end of a line. -/
inductive LiteralState where
  | plain
  /-- After a return. -/
  | returned
  /-- After a backslash. -/
  | escaped
  /-- After a backslash and a return. -/
  | escapedReturn
  /-- After a line that ends with a backslash. -/
  | skipping
  /-- After a backslash and an `x`. -/
  | high
  /-- After the first of two digits. -/
  | low (digit : Nat)
  /-- After a backslash and a `u`. -/
  | unicode
  /-- After the bracket of a code. -/
  | opened
  /-- After some digits of a code. -/
  | digits (count value : Nat)

/-- What a character does: it is not allowed, it ends the literal, or it is read. -/
inductive LiteralStep where
  | fail
  | finish
  | next (state : LiteralState) (denoted : List Char)

/-- A character that is read at its end. -/
def LiteralStep.char (char : Char) : LiteralStep :=
  .next .plain [char]

/-- A character outside escapes. -/
def plainStep : Char → LiteralStep
  | '"' => .finish
  | '\\' => .next .escaped []
  | '\r' => .next .returned []
  | char => .char char

/-- The character after a backslash. -/
def escapedStep : Char → LiteralStep
  | '"' => .char '"'
  | '\'' => .char '\''
  | '\\' => .char '\\'
  | 'n' => .char '\n'
  | 'r' => .char '\r'
  | 't' => .char '\t'
  | '0' => .char (Char.ofNat 0)
  | 'x' => .next .high []
  | 'u' => .next .unicode []
  | '\n' => .next .skipping []
  | '\r' => .next .escapedReturn []
  | _ => .fail

/-- A character among the digits of a code, of which there are at most six. -/
def digitsStep (count value : Nat) : Char → LiteralStep
  | '_' => .next (.digits count value) []
  | '}' => if value.isValidChar then .char (Char.ofNat value) else .fail
  | char =>
      match Json.hexValue? char with
      | some digit =>
          if count < 6 then .next (.digits (count + 1) (16 * value + digit)) [] else .fail
      | none => .fail

/-- What a character does after what has been read. -/
def LiteralState.step : LiteralState → Char → LiteralStep
  | .plain, char => plainStep char
  | .returned, char => if char = '\n' then .char '\n' else .fail
  | .escaped, char => escapedStep char
  | .escapedReturn, char => if char = '\n' then .next .skipping [] else .fail
  | .skipping, char =>
      if char ∈ [' ', '\t', '\n', '\r'] then .next .skipping [] else plainStep char
  | .high, char =>
      match Json.hexValue? char with
      | some digit => if digit < 8 then .next (.low digit) [] else .fail
      | none => .fail
  | .low first, char =>
      match Json.hexValue? char with
      | some digit => .char (Char.ofNat (16 * first + digit))
      | none => .fail
  | .unicode, char => if char = '{' then .next .opened [] else .fail
  | .opened, char =>
      match Json.hexValue? char with
      | some digit => .next (.digits 1 digit) []
      | none => .fail
  | .digits count value, char => digitsStep count value char

/-- Read to the end of a literal: what it denotes, and what comes after it. -/
def readFrom : LiteralState → List Char → Option (List Char × List Char)
  | _, [] => none
  | state, char :: rest =>
      match state.step char with
      | .fail => none
      | .finish => some ([], rest)
      | .next state denoted =>
          (readFrom state rest).map fun (value, after) => (denoted ++ value, after)

/-- Read a literal, whose opening quote has been read. -/
def readLiteral (chars : List Char) : Option (List Char × List Char) :=
  readFrom .plain chars

/-! ## Lengths -/

/-- No character denotes more than one. -/
theorem length_denoted_le {state next : LiteralState} {char : Char} {denoted : List Char}
    (stepped : state.step char = .next next denoted) : denoted.length ≤ 1 := by
  unfold LiteralState.step plainStep escapedStep digitsStep LiteralStep.char at stepped
  grind

/-- A literal denotes no more characters than it has. -/
theorem length_le_of_readFrom {state : LiteralState} {chars value after : List Char}
    (read : readFrom state chars = some (value, after)) :
    value.length + after.length + 1 ≤ chars.length := by
  induction chars generalizing state value with
  | nil => cases read
  | cons char rest ih =>
      rw [readFrom] at read
      split at read
      · cases read
      · cases read
        simp
      · next next denoted stepped =>
          obtain ⟨⟨others, _⟩, readRest, equal⟩ := Option.map_eq_some_iff.mp read
          cases equal
          have short := length_denoted_le stepped
          have inRest := ih readRest
          rw [List.length_append, List.length_cons]
          omega

/-! ## Texts that denote themselves -/

/-- The characters that do not stand for themselves. -/
def specialChars : List Char :=
  ['"', '\\', '\r']

/-- A text without special characters. -/
def IsPlain (content : String) : Prop :=
  ∀ char ∈ content.toList, char ∉ specialChars

instance (content : String) : Decidable (IsPlain content) :=
  List.decidableBAll _ content.toList

theorem plainStep_of_notMem {char : Char} (isPlain : char ∉ specialChars) :
    plainStep char = .char char := by
  simp only [specialChars, List.mem_cons, List.not_mem_nil, or_false, not_or] at isPlain
  unfold plainStep
  split
  · exact absurd rfl isPlain.1
  · exact absurd rfl isPlain.2.1
  · exact absurd rfl isPlain.2.2
  · rfl

/-- A special character denotes nothing by itself.  It is spent first, so the rest is too short
to denote it together with all that follows. -/
theorem readLiteral_ne_of_special {char : Char} (isSpecial : char ∈ specialChars)
    (content after : List Char) :
    readLiteral (char :: content ++ '"' :: after) ≠ some (char :: content, after) := by
  intro read
  rw [readLiteral, List.cons_append, readFrom] at read
  have isStep : plainStep char = .finish ∨ ∃ next, plainStep char = .next next [] := by
    simp only [specialChars, List.mem_cons, List.not_mem_nil, or_false] at isSpecial
    rcases isSpecial with rfl | rfl | rfl
    · exact Or.inl rfl
    · exact Or.inr ⟨_, rfl⟩
    · exact Or.inr ⟨_, rfl⟩
  rcases isStep with finishes | ⟨next, goesOn⟩
  · simp only [LiteralState.step, finishes] at read
    cases read
  · simp only [LiteralState.step, goesOn] at read
    obtain ⟨⟨value, _⟩, readRest, equal⟩ := Option.map_eq_some_iff.mp read
    cases equal
    have short := length_le_of_readFrom readRest
    simp only [List.length_cons, List.length_append] at short
    omega

/-- A text between quotes is read back, and the literal ends at the second quote, exactly if the
text has no special characters. -/
theorem readLiteral_eq_iff (content after : List Char) :
    readLiteral (content ++ '"' :: after) = some (content, after) ↔
      ∀ char ∈ content, char ∉ specialChars := by
  induction content with
  | nil => simp [readLiteral, readFrom, LiteralState.step, plainStep]
  | cons char rest ih =>
      rw [List.forall_mem_cons]
      by_cases isSpecial : char ∈ specialChars
      · exact iff_of_false (readLiteral_ne_of_special isSpecial rest after)
          fun each => each.1 isSpecial
      · have step : readLiteral (char :: rest ++ '"' :: after) =
            (readLiteral (rest ++ '"' :: after)).map fun (value, after) =>
              (char :: value, after) := by
          rw [readLiteral, List.cons_append, readFrom, LiteralState.step,
            plainStep_of_notMem isSpecial]
          rfl
        rw [step, Option.map_eq_some_iff, and_iff_right isSpecial, ← ih]
        constructor
        · rintro ⟨⟨value, _⟩, readRest, equal⟩
          cases equal
          exact readRest
        · exact fun readRest => ⟨_, readRest, rfl⟩

/-- The text that a literal denotes, if it ends where it is closed. -/
def literalValue (content : String) : Option String :=
  match readLiteral (content.toList ++ ['"']) with
  | some (value, []) => some (String.ofList value)
  | _ => none

/-- A literal denotes the text that it is made from exactly if it has no special characters. -/
theorem literalValue_eq_iff (content : String) :
    literalValue content = some content ↔ IsPlain content := by
  rw [IsPlain, ← readLiteral_eq_iff content.toList [], literalValue]
  constructor
  · intro denotes
    split at denotes
    · next value read =>
        rw [read, ← Option.some.inj denotes, String.toList_ofList]
    · cases denotes
  · intro read
    rw [read]
    exact congrArg some String.ofList_toList

example : literalValue "say \\\"hi\\\"\\u\x7b21\x7d" = some "say \"hi\"!" := by
  decide +kernel

end ApiScaffold.RustCode
