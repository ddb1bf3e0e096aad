/-!
# Lines of a text

A line ends at a line feed, a carriage return, the two together, or at one of
the other separators: vertical tabulator, form feed, the file, group and record
separators, next line, and the line and paragraph separators.  A text that ends
in a separator has no further line after it.
-/

namespace ApiScaffold.Text

/-- Whether a character ends a line. -/
def isLineEnd (char : Char) : Bool :=
  [0xA, 0xB, 0xC, 0xD, 0x1C, 0x1D, 0x1E, 0x85, 0x2028, 0x2029].contains char.toNat

/-- Split into lines; `current` holds the characters of the open line in reverse. -/
def linesFrom (current : List Char) : List Char → List (List Char)
  | [] => if current.isEmpty then [] else [current.reverse]
  | '\r' :: '\n' :: rest => current.reverse :: linesFrom [] rest
  | char :: rest =>
      if isLineEnd char then current.reverse :: linesFrom [] rest
      else linesFrom (char :: current) rest

/-- The lines of a text, without what ends them. -/
def lines (text : String) : List (List Char) :=
  linesFrom [] text.toList

/-- Line feeds in place of carriage returns, and of the two together. -/
def unifyLineEndChars : List Char → List Char
  | [] => []
  | '\r' :: '\n' :: rest => '\n' :: unifyLineEndChars rest
  | '\r' :: rest => '\n' :: unifyLineEndChars rest
  | char :: rest => char :: unifyLineEndChars rest

/-- The text with a line feed for every carriage return, or for a carriage return and the
line feed after it. -/
def unifyLineEnds (text : String) : String :=
  if text.toList.contains '\r' then String.ofList (unifyLineEndChars text.toList) else text

/-- No character of a line ends a line. -/
theorem isLineEnd_of_mem_linesFrom (current chars : List Char)
    (open? : ∀ char ∈ current, isLineEnd char = false) :
    ∀ line ∈ linesFrom current chars, ∀ char ∈ line, isLineEnd char = false := by
  fun_induction linesFrom current chars with
  | case1 => simp
  | case2 =>
      intro line lineMem char charMem
      simp only [List.mem_singleton] at lineMem
      subst lineMem
      exact open? char (List.mem_reverse.mp charMem)
  | case3 current rest ih =>
      intro line lineMem char charMem
      rcases List.mem_cons.mp lineMem with equal | inRest
      · subst equal
        exact open? char (List.mem_reverse.mp charMem)
      · exact ih (by simp) line inRest char charMem
  | case4 current first rest _ _ ih =>
      intro line lineMem char charMem
      rcases List.mem_cons.mp lineMem with equal | inRest
      · subst equal
        exact open? char (List.mem_reverse.mp charMem)
      · exact ih (by simp) line inRest char charMem
  | case5 current first rest _ notEnd ih =>
      refine ih ?_
      intro char charMem
      rcases List.mem_cons.mp charMem with equal | inCurrent
      · subst equal
        simpa using notEnd
      · exact open? char inCurrent

/-- Lines hold no line ends. -/
theorem isLineEnd_of_mem_lines (text : String) :
    ∀ line ∈ lines text, ∀ char ∈ line, isLineEnd char = false :=
  isLineEnd_of_mem_linesFrom [] text.toList (by simp)

end ApiScaffold.Text
