import ApiScaffold.Text.CodePoint
import ApiScaffold.Text.LetterCase

/-!
# Paths

A path names a place among files and directories by a row of names.  It starts at
the working directory or at the root.  Slashes in a row count as one, and so do names
that are a single dot; `..` leads to the directory above.  Exactly two slashes at the
start are kept.
-/

namespace ApiScaffold

/-- Where a path starts. -/
inductive PathStart where
  /-- The working directory. -/
  | here
  | root
  /-- The root, written as two slashes. -/
  | doubleRoot
  deriving DecidableEq, Repr

/-- A path. -/
structure FilePath where
  start : PathStart
  /-- The names on the way, the last one at the end. -/
  names : List String
  deriving DecidableEq, Repr

namespace FilePath

/-- The name that leads to the directory above. -/
def parentName : String := ".."

/-- Whether a segment between slashes is a name; others are left out. -/
def isName (segment : List Char) : Bool :=
  segment != ['/'] && segment != ['.']

/-- The names between the slashes. -/
def namesOf (chars : List Char) : List String :=
  let segments := chars.splitBy fun first second => first != '/' && second != '/'
  (segments.filter isName).map String.ofList

/-- The start of a path with this many leading slashes. -/
def startOf : Nat → PathStart
  | 0 => .here
  | 2 => .doubleRoot
  | _ => .root

/-- Read a path. -/
def ofText (text : String) : FilePath :=
  let chars := text.toList
  ⟨startOf (chars.takeWhile fun char => char = '/').length, namesOf chars⟩

/-- What is written for the start of a path. -/
def startText : PathStart → String
  | .here => ""
  | .root => "/"
  | .doubleRoot => "//"

/-- The text of a path. -/
def text (path : FilePath) : String :=
  if path.start = .here && path.names.isEmpty then "."
  else startText path.start ++ "/".intercalate path.names

/-- Follow a path from the end of another one. -/
def join (base path : FilePath) : FilePath :=
  if path.start = .here then ⟨base.start, base.names ++ path.names⟩ else path

/-- Follow one more name. -/
def child (path : FilePath) (name : String) : FilePath :=
  ⟨path.start, path.names ++ [name]⟩

/-- What follows the last dot of a name, if there is something before and behind it. -/
def extensionOf? (name : String) : Option String :=
  let reversed := name.toList.reverse
  let ending := reversed.takeWhile fun char => char != '.'
  match reversed.drop ending.length with
  | '.' :: _ :: _ => if ending.isEmpty then none else some (String.ofList ending.reverse)
  | _ => none

/-- The extension of the last name, in lower case. -/
def extension? (path : FilePath) : Option String :=
  (path.names.getLast?.bind extensionOf?).map Text.lowerText

/-! ## Bytes

The file system knows paths by their bytes, which need not be a text.  A byte that is in no
character is half of a surrogate pair in the text of the path.
-/

/-- Whether half of a surrogate pair stands for a byte. -/
def isStrayByte (number : Fin Text.halfCount) : Bool :=
  decide (0x480 ≤ number.val ∧ number.val < 0x500)

/-- The first halves of surrogate pairs in the text of a path that stand for no byte. -/
def strayHalves? (path : FilePath) : Option Text.StrayHalves :=
  Text.strayHalvesFrom? isStrayByte 0 (Text.codePoints path.text)

/-- The number of bytes of a code point. -/
def pointSize : Text.CodePoint → Nat
  | .character char => char.utf8Size
  | .half _ => 1

/-- The number of bytes of a path or a name. -/
def byteCount (text : String) : Nat :=
  (Text.codePoints text).foldl (fun size point => size + pointSize point) 0

/-- Paths from the root do not depend on where others end. -/
theorem join_of_start_ne_here (base : FilePath) {path : FilePath} (rooted : path.start ≠ .here) :
    base.join path = path := by
  simp [join, rooted]

/-- Joining paths is associative. -/
theorem join_assoc (first second third : FilePath) :
    (first.join second).join third = first.join (second.join third) := by
  unfold join
  by_cases thirdHere : third.start = .here
  · by_cases secondHere : second.start = .here
    · simp [thirdHere, secondHere]
    · simp [thirdHere, secondHere]
  · simp [thirdHere]

/-- No name of a path that is read is a single dot. -/
theorem dot_not_mem_namesOf (chars : List Char) : "." ∉ namesOf chars := by
  intro member
  simp only [namesOf, List.mem_map, List.mem_filter] at member
  obtain ⟨segment, ⟨_, named⟩, equal⟩ := member
  have single : segment = ['.'] := by
    have sameChars := congrArg String.toList equal
    simpa using sameChars
  simp [isName, single] at named

end FilePath

end ApiScaffold
