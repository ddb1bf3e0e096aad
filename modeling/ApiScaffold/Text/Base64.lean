/-!
# Base 64

Four characters of the alphabet carry three bytes, six bits each.  Characters
outside the alphabet are passed over.  Reading ends at the padding that completes
a group of four; a group that is left incomplete is an error.
-/

namespace ApiScaffold.Text

/-- The six bits of a character of the alphabet. -/
def base64Value? (char : Char) : Option Nat :=
  if char.isUpper then some (char.toNat - 65)
  else if char.isLower then some (char.toNat - 71)
  else if char.isDigit then some (char.toNat + 4)
  else if char = '+' then some 62
  else if char = '/' then some 63
  else none

/-- A group of four characters that is being read. -/
structure Base64Group where
  /-- The number of characters so far. -/
  count : Nat
  /-- The bits of the last character that make no full byte yet. -/
  left : Nat
  /-- The padding since the last character. -/
  padding : Nat

/-- Add a character to a group, and give out the byte that it completes. -/
def Base64Group.add (group : Base64Group) (bits : Nat) : Base64Group × List UInt8 :=
  match group.count with
  | 0 => (⟨1, bits, 0⟩, [])
  | 1 => (⟨2, bits % 16, 0⟩, [UInt8.ofNat (group.left * 4 + bits / 16)])
  | 2 => (⟨3, bits % 4, 0⟩, [UInt8.ofNat (group.left * 16 + bits / 4)])
  | _ => (⟨0, 0, 0⟩, [UInt8.ofNat (group.left * 64 + bits)])

/-- Read characters onto a group that was begun. -/
def readBase64 (group : Base64Group) : List Char → Option (List UInt8)
  | [] => if group.count = 0 then some [] else none
  | char :: rest =>
      if char = '=' then
        if group.count < 2 then readBase64 group rest
        else if 4 ≤ group.count + group.padding + 1 then some []
        else readBase64 { group with padding := group.padding + 1 } rest
      else
        match base64Value? char with
        | none => readBase64 group rest
        | some bits =>
            let (next, bytes) := group.add bits
            (readBase64 next rest).map (bytes ++ ·)

/-- The bytes that a text carries. -/
def bytesOfBase64? (chars : List Char) : Option (List UInt8) :=
  readBase64 ⟨0, 0, 0⟩ chars

/-- The empty text carries no bytes. -/
@[simp]
theorem bytesOfBase64?_nil : bytesOfBase64? [] = some [] :=
  rfl

end ApiScaffold.Text
