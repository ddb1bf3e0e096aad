/-!
# Code points

Classes of characters are given as lists of inclusive ranges of code points.

A text is a row of code points.  Most of them are characters, but an escape can also name
half of a surrogate pair, which no `String` can hold.  In a text such a half is spelled by
a mark and a character for the half, and the mark itself by the mark and a character of
its own.  So every row of code points has one spelling, and texts without the mark stand
for themselves.
-/

namespace ApiScaffold.Text

/-- Whether a code point lies in one of the ranges; both ends are included. -/
def inRanges (ranges : List (Nat × Nat)) (code : Nat) : Bool :=
  ranges.any fun range => decide (range.1 ≤ code ∧ code ≤ range.2)

theorem inRanges_eq_true_iff (ranges : List (Nat × Nat)) (code : Nat) :
    inRanges ranges code = true ↔
      ∃ range ∈ ranges, range.1 ≤ code ∧ code ≤ range.2 := by
  simp [inRanges]

/-! ## Halves of surrogate pairs -/

/-- The first half of a surrogate pair. -/
def firstHalf : Nat := 0xD800

/-- The number of halves. -/
def halfCount : Nat := 0x800

/-- A code point. -/
inductive CodePoint where
  | character (char : Char)
  /-- Half of a surrogate pair, by its distance from the first one. -/
  | half (number : Fin halfCount)
  deriving DecidableEq, Repr

namespace CodePoint

/-- The number of a code point. -/
def toNat : CodePoint → Nat
  | .character char => char.toNat
  | .half number => firstHalf + number

/-- The code point with a number. -/
def ofNat (code : Nat) : CodePoint :=
  if isHalf : firstHalf ≤ code ∧ code - firstHalf < halfCount then
    .half ⟨code - firstHalf, isHalf.2⟩
  else .character (Char.ofNat code)

/-- The character, if the code point is one. -/
def char? : CodePoint → Option Char
  | .character char => some char
  | .half _ => none

/-- Whether a code point is half of a surrogate pair. -/
def isHalf (point : CodePoint) : Bool :=
  point.char?.isNone

end CodePoint

/-! ## Spelling -/

/-- The character in front of what is spelled by two characters. -/
def mark : Char := Char.ofNat 0xD7FF

/-- The code of the character that spells the mark; those for the halves follow it. -/
def markCode : Nat := 0xE000

/-- How a code point is spelled. -/
def CodePoint.spelling : CodePoint → List Char
  | .character char => if char = mark then [mark, Char.ofNat markCode] else [char]
  | .half number => [mark, Char.ofNat (markCode + 1 + number)]

/-- The code point that a character behind the mark spells. -/
def CodePoint.ofMarked (char : Char) : CodePoint :=
  if spellsHalf : markCode < char.toNat ∧ char.toNat - (markCode + 1) < halfCount then
    .half ⟨char.toNat - (markCode + 1), spellsHalf.2⟩
  else .character mark

/-- The code points that characters spell. -/
def codePointsOf : List Char → List CodePoint
  | [] => []
  | [char] => [.character char]
  | first :: second :: rest =>
      if first = mark then CodePoint.ofMarked second :: codePointsOf rest
      else .character first :: codePointsOf (second :: rest)

/-- The code points of a text. -/
def codePoints (text : String) : List CodePoint :=
  codePointsOf text.toList

/-- The text of a row of code points. -/
def ofCodePoints (points : List CodePoint) : String :=
  String.ofList (points.flatMap CodePoint.spelling)

/-- The characters that spell the halves are those behind that for the mark. -/
theorem toNat_ofNat_markCode_add (number : Fin halfCount) :
    (Char.ofNat (markCode + 1 + number)).toNat = markCode + 1 + number := by
  have bounded : (number : Nat) < 0x800 := number.isLt
  have valid : (markCode + 1 + number).isValidChar := by
    refine .inr ⟨?_, ?_⟩ <;> simp only [markCode] <;> omega
  rw [Char.ofNat, dif_pos valid]
  rfl

/-- The character behind the mark tells the code point. -/
theorem CodePoint.ofMarked_ofNat (number : Fin halfCount) :
    CodePoint.ofMarked (Char.ofNat (markCode + 1 + number)) = .half number := by
  have bounded := number.isLt
  have code := toNat_ofNat_markCode_add number
  unfold CodePoint.ofMarked
  rw [dif_pos ⟨by omega, by omega⟩]
  simp [code]

theorem CodePoint.ofMarked_markCode :
    CodePoint.ofMarked (Char.ofNat markCode) = .character mark := by
  decide

/-- What a code point is spelled by is read as that code point. -/
theorem codePointsOf_spelling_append (point : CodePoint) (chars : List Char) :
    codePointsOf (point.spelling ++ chars) = point :: codePointsOf chars := by
  cases point with
  | half number =>
      simp [CodePoint.spelling, codePointsOf, CodePoint.ofMarked_ofNat]
  | character char =>
      by_cases marked : char = mark
      · simp [CodePoint.spelling, marked, codePointsOf, CodePoint.ofMarked_markCode]
      · cases chars with
        | nil => simp [CodePoint.spelling, marked, codePointsOf]
        | cons next rest => simp [CodePoint.spelling, marked, codePointsOf]

/-- The code points of a text are those that it was made of. -/
theorem codePoints_ofCodePoints (points : List CodePoint) :
    codePoints (ofCodePoints points) = points := by
  unfold codePoints ofCodePoints
  rw [String.toList_ofList]
  induction points with
  | nil => rfl
  | cons point rest ih => rw [List.flatMap_cons, codePointsOf_spelling_append, ih]

/-- Characters without the mark stand for themselves. -/
theorem codePointsOf_of_mark_notMem {chars : List Char} (plain : mark ∉ chars) :
    codePointsOf chars = chars.map .character := by
  fun_induction codePointsOf chars with
  | case1 => rfl
  | case2 => rfl
  | case3 second rest ih => exact absurd List.mem_cons_self plain
  | case4 first second rest unmarked ih =>
      rw [List.map_cons, ih fun member => plain (List.mem_cons_of_mem first member)]

/-- The text for a row of characters. -/
def ofUnicode (unicode : String) : String :=
  if unicode.toList.contains mark then ofCodePoints (unicode.toList.map .character) else unicode

/-- The code points of the text for a row of characters are these characters. -/
theorem codePoints_ofUnicode (unicode : String) :
    codePoints (ofUnicode unicode) = unicode.toList.map .character := by
  unfold ofUnicode
  split
  · rw [codePoints_ofCodePoints]
  · next plain => exact codePointsOf_of_mark_notMem (by simpa using plain)

/-- Whether half of a surrogate pair is in a text. -/
def hasHalf (text : String) : Bool :=
  (codePoints text).any CodePoint.isHalf

/-- The text with characters in the place of each half of a surrogate pair. -/
def replaceHalves (replace : Fin halfCount → List Char) (text : String) : String :=
  if hasHalf text then
    String.ofList ((codePoints text).flatMap fun point =>
      match point with
      | .half number => replace number
      | .character _ => point.spelling)
  else text

/-! ## Bytes -/

/-- Halves of surrogate pairs in a row, which have no bytes. -/
structure StrayHalves where
  /-- The number of code points before the first one. -/
  position : Nat
  first : Fin halfCount
  /-- The number of halves behind the first one. -/
  further : Nat
  deriving DecidableEq, Repr

/-- The first halves among code points that have no bytes, other than those that `hasByte`
accepts; `position` is that of the first code point. -/
def strayHalvesFrom? (hasByte : Fin halfCount → Bool) (position : Nat) :
    List CodePoint → Option StrayHalves
  | [] => none
  | .character _ :: rest => strayHalvesFrom? hasByte (position + 1) rest
  | .half number :: rest =>
      if hasByte number then strayHalvesFrom? hasByte (position + 1) rest
      else some ⟨position, number, (rest.takeWhile CodePoint.isHalf).length⟩

/-- The first halves of surrogate pairs in a text. -/
def strayHalves? (text : String) : Option StrayHalves :=
  strayHalvesFrom? (fun _ => false) 0 (codePoints text)

/-- The characters of a text; halves of surrogate pairs are left out. -/
def unicode (text : String) : String :=
  String.ofList ((codePoints text).filterMap CodePoint.char?)

/-- The bytes of the characters of a text. -/
def bytes (text : String) : ByteArray :=
  (unicode text).toUTF8

/-- The bytes of a text, which has none if halves of surrogate pairs are in it. -/
def encode (text : String) : Except StrayHalves ByteArray :=
  match strayHalves? text with
  | some stray => .error stray
  | none => .ok (bytes text)

/-- The text in bytes, if they are one. -/
def decode? (bytes : ByteArray) : Option String :=
  (String.fromUTF8? bytes).map ofUnicode

/-- No half is found exactly if all that are there are accepted. -/
theorem strayHalvesFrom?_eq_none_iff (hasByte : Fin halfCount → Bool) (position : Nat)
    (points : List CodePoint) :
    strayHalvesFrom? hasByte position points = none ↔
      ∀ number, .half number ∈ points → hasByte number = true := by
  induction points generalizing position with
  | nil => simp [strayHalvesFrom?]
  | cons point rest ih =>
      cases point with
      | character char => simp [strayHalvesFrom?, ih]
      | half number =>
          by_cases accepted : hasByte number = true
          · simp [strayHalvesFrom?, accepted, ih]
          · simp [strayHalvesFrom?, accepted]

/-- Exactly the texts without halves of surrogate pairs have bytes. -/
theorem strayHalves?_eq_none_iff (text : String) :
    strayHalves? text = none ↔ hasHalf text = false := by
  rw [strayHalves?, strayHalvesFrom?_eq_none_iff, hasHalf, List.any_eq_false]
  constructor
  · intro accepted point member
    cases point with
    | character char => simp [CodePoint.isHalf, CodePoint.char?]
    | half number => simpa using accepted number member
  · exact fun plain number member => absurd rfl (plain _ member)

theorem encode_of_hasHalf_eq_false {text : String} (plain : hasHalf text = false) :
    encode text = .ok (bytes text) := by
  rw [encode, (strayHalves?_eq_none_iff text).mpr plain]

/-- A row of characters has the bytes of its characters. -/
theorem encode_ofUnicode (unicode : String) :
    encode (ofUnicode unicode) = .ok unicode.toUTF8 := by
  have plain : hasHalf (ofUnicode unicode) = false := by
    rw [hasHalf, codePoints_ofUnicode]
    simp [CodePoint.isHalf, CodePoint.char?]
  have same : Text.unicode (ofUnicode unicode) = unicode := by
    rw [Text.unicode, codePoints_ofUnicode, List.filterMap_map]
    simp [Function.comp_def, CodePoint.char?]
  rw [encode_of_hasHalf_eq_false plain, bytes, same]

/-- What is read is written with the bytes that it came from. -/
theorem encode_of_decode? {content : ByteArray} {text : String}
    (decoded : decode? content = some text) : encode text = .ok content := by
  obtain ⟨unicode, read, rfl⟩ := Option.map_eq_some_iff.mp decoded
  unfold String.fromUTF8? at read
  split at read
  · cases read
    exact encode_ofUnicode _
  · cases read

end ApiScaffold.Text
