import ApiScaffold.Text.EmojiFlag
import ApiScaffold.Text.EmojiPeople
import ApiScaffold.Text.EmojiPictures

/-!
# Pictures by name

A picture has a name in small letters.  A name of people with the name of a tone behind it
means the picture in that tone: the sign of the tone follows the first character, in place
of a selector.
-/

namespace ApiScaffold.Text

/-- The names of the tones of skin and the signs of the tones. -/
def skinTones : List (String × Char) :=
  [("light", Char.ofNat 0x1F3FB), ("medium-light", Char.ofNat 0x1F3FC),
   ("medium", Char.ofNat 0x1F3FD), ("medium-dark", Char.ofNat 0x1F3FE),
   ("dark", Char.ofNat 0x1F3FF)]

/-- The name of people in a tone. -/
def tonedName (name tone : String) : String :=
  name ++ "_" ++ tone ++ "_skin_tone"

/-- A picture in a tone. -/
def withTone (tone : Char) (picture : String) : String :=
  match picture.toList with
  | [] => ""
  | first :: '\ufe0f' :: rest => String.ofList (first :: tone :: rest)
  | first :: rest => String.ofList (first :: tone :: rest)

/-- The picture in a tone that a name stands for. -/
def tonedPicture? (name : String) : Option String :=
  skinTones.findSome? fun tone =>
    peoplePictures.findSome? fun row =>
      if tonedName row.1 tone.1 = name then some (withTone tone.2 row.2) else none

/-- The picture that a name stands for. -/
def emoji? (name : String) : Option String :=
  namedPictures.lookup name <|> peoplePictures.lookup name <|> tonedPicture? name <|>
    flag? name

end ApiScaffold.Text
