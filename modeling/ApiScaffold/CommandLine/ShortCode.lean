import ApiScaffold.Text.Blank
import ApiScaffold.Text.Emoji
import ApiScaffold.Text.LetterCase

/-!
# Short codes of pictures

A short code is the name of a picture between two colons, with no blank inside.  The name
may end in a hyphen and the word for a variant, which puts a selector behind the picture.
Short codes are read from the left and each one ends at the first colon that can end it.
One that names no picture stays as it is.
-/

namespace ApiScaffold.CommandLine

/-- A short code; the colon in front of it is not counted. -/
structure ShortCode where
  name : List Char
  /-- What the variant puts behind the picture. -/
  selector : List Char
  /-- The number of its characters. -/
  length : Nat
  deriving DecidableEq

/-- The variant and the colon at the end of a short code: the selector and their length. -/
def shortCodeEnd? : List Char → Option (List Char × Nat)
  | '-' :: 'e' :: 'm' :: 'o' :: 'j' :: 'i' :: ':' :: _ => some (['\ufe0f'], 7)
  | '-' :: 't' :: 'e' :: 'x' :: 't' :: ':' :: _ => some (['\ufe0e'], 6)
  | ':' :: _ => some ([], 1)
  | _ => none

/-- Read a short code behind its first colon; `name` holds the open name in reverse. -/
def readShortCode (name : List Char) : List Char → Option ShortCode
  | [] => none
  | char :: rest =>
      match shortCodeEnd? (char :: rest) with
      | some (selector, size) => some ⟨name.reverse, selector, name.length + size⟩
      | none => if Text.isBlank char then none else readShortCode (char :: name) rest

/-- The picture that a short code means. -/
def ShortCode.picture? (code : ShortCode) : Option (List Char) :=
  (Text.emoji? (Text.lowerText (String.ofList code.name))).map fun picture =>
    picture.toList ++ code.selector

/-- Put pictures in place of their short codes. -/
def drawPictures : List Char → List Char
  | [] => []
  | char :: rest =>
      if char = ':' then
        match readShortCode [] rest with
        | none => char :: drawPictures rest
        | some code =>
            code.picture?.getD (char :: rest.take code.length) ++
              drawPictures (rest.drop code.length)
      else char :: drawPictures rest
termination_by chars => chars.length
decreasing_by all_goals simp only [List.length_cons, List.length_drop]; omega

/-- A text without colons has no short codes. -/
theorem drawPictures_eq_self (chars : List Char) (plain : ':' ∉ chars) :
    drawPictures chars = chars := by
  induction chars with
  | nil => rw [drawPictures]
  | cons char rest ih =>
      simp only [List.mem_cons, not_or] at plain
      rw [drawPictures, if_neg fun equal => plain.1 equal.symm, ih plain.2]

end ApiScaffold.CommandLine
