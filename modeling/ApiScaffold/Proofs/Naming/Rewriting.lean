import ApiScaffold.Proofs.Naming.SnakeCase
import ApiScaffold.Proofs.Naming.Stability
import ApiScaffold.Text.Digit
import Mathlib.Data.List.DropRight

/-!
# Snake case by rewriting

Snake case is also what a text becomes that is rewritten step by step.  First an underscore is put
before the last capital of a row of capitals, if a small letter follows; then between a small
letter or a digit and a capital.  After that each row of other characters than letters and digits
becomes an underscore, and underscores at both ends go.

A rewriting step looks for the leftmost place where its rule matches, takes the longest match
there, and goes on behind it.  A rule that `Marks` the places between certain neighbours has the
effect of a single pass over the text, and the passes of the two rules can be made in one, which is
`separateWords`.  The digits of all scripts count for the second rule, which changes nothing: only
those of ASCII are in words.
-/

namespace ApiScaffold.Naming

/-! ## Rules -/

/-- The beginning of a text, parted in two, and what comes after it. -/
structure Parted where
  before : List Char
  after : List Char
  rest : List Char

/-- A rule that parts the beginning of a text, if it matches there. -/
structure PartingRule where
  part? : List Char → Option Parted
  /-- A match has a character in it, so that the rest is shorter. -/
  shorter : ∀ {chars : List Char} {parted : Parted}, part? chars = some parted →
    parted.rest.length < chars.length

/-- Put an underscore into each match.  Matches are found from the left and do not overlap. -/
def PartingRule.rewrite (rule : PartingRule) : List Char → List Char
  | [] => []
  | char :: rest =>
      match _found : rule.part? (char :: rest) with
      | some parted => parted.before ++ '_' :: (parted.after ++ rule.rewrite parted.rest)
      | none => char :: rule.rewrite rest
termination_by chars => chars.length
decreasing_by
  · exact rule.shorter _found
  · exact Nat.lt_succ_self _

/-- A character, and then a capital before a small letter. -/
def partCapital? (char : Char) : List Char → Option Parted
  | capital :: small :: others =>
      if capital.isUpper && small.isLower then some ⟨[char], [capital, small], others⟩ else none
  | _ => none

/-- Capitals, as many as there can be, and then a capital before a small letter. -/
def partAcronym? : List Char → Option Parted
  | [] => none
  | char :: rest =>
      if char.isUpper then
        match partAcronym? rest with
        | some parted => some { parted with before := char :: parted.before }
        | none => partCapital? char rest
      else none

/-- A small letter, or a digit of any script. -/
def isSmallOrDigit (char : Char) : Bool :=
  char.isLower || (Text.digitValue? char).isSome

/-- A small letter or a digit, and then a capital. -/
def partSmall? : List Char → Option Parted
  | first :: second :: others =>
      if isSmallOrDigit first && second.isUpper then some ⟨[first], [second], others⟩ else none
  | _ => none

theorem partCapital?_eq_some_iff {char : Char} {chars : List Char} {parted : Parted} :
    partCapital? char chars = some parted ↔ ∃ capital small others,
      chars = capital :: small :: others ∧ capital.isUpper = true ∧ small.isLower = true ∧
      ⟨[char], [capital, small], others⟩ = parted := by
  match chars with
  | [] => simp [partCapital?]
  | [_] => simp [partCapital?]
  | capital :: small :: others => simp [partCapital?, and_assoc]

/-- The two ways in which an acronym can match: one more capital stands in front of a match, or in
front of the last capital. -/
theorem partAcronym?_cons_eq_some_iff {char : Char} {rest : List Char} {parted : Parted} :
    partAcronym? (char :: rest) = some parted ↔ char.isUpper = true ∧
      ((∃ inner, partAcronym? rest = some inner ∧
          { inner with before := char :: inner.before } = parted) ∨
        partAcronym? rest = none ∧ partCapital? char rest = some parted) := by
  rw [partAcronym?]
  by_cases isUpper : char.isUpper = true
  · rw [if_pos isUpper, and_iff_right isUpper]
    cases partAcronym? rest <;> simp
  · simp [isUpper]

theorem partSmall?_eq_some_iff {chars : List Char} {parted : Parted} :
    partSmall? chars = some parted ↔ ∃ first second others, chars = first :: second :: others ∧
      isSmallOrDigit first = true ∧ second.isUpper = true ∧
      ⟨[first], [second], others⟩ = parted := by
  match chars with
  | [] => simp [partSmall?]
  | [_] => simp [partSmall?]
  | first :: second :: others => simp [partSmall?, and_assoc]

/-- The rule for a word after an acronym. -/
def acronymRule : PartingRule where
  part? := partAcronym?
  shorter := by
    intro chars
    induction chars with
    | nil => exact nofun
    | cons char rest ih =>
        intro parted found
        obtain ⟨_, ⟨inner, isInner, rfl⟩ | ⟨_, isLast⟩⟩ := partAcronym?_cons_eq_some_iff.mp found
        · have shorter : inner.rest.length < rest.length := ih isInner
          exact Nat.lt_succ_of_lt shorter
        · obtain ⟨_, _, _, rfl, _, _, rfl⟩ := partCapital?_eq_some_iff.mp isLast
          simp only [List.length_cons]
          omega

/-- The rule for a word after a small letter or a digit. -/
def smallRule : PartingRule where
  part? := partSmall?
  shorter := by
    intro chars parted found
    obtain ⟨_, _, _, rfl, _, _, rfl⟩ := partSmall?_eq_some_iff.mp found
    simp only [List.length_cons]
    omega

/-! ## Passes -/

/-- Put an underscore before each character that stands between certain neighbours. -/
def separateWhere (starts : Option Char → Char → Option Char → Bool) (previous : Option Char) :
    List Char → List Char
  | [] => []
  | char :: rest =>
      if starts previous char rest.head? then '_' :: char :: separateWhere starts (some char) rest
      else char :: separateWhere starts (some char) rest

theorem separateWhere_startsWord (previous : Option Char) (chars : List Char) :
    separateWhere startsWord previous chars = separateWords previous chars := by
  induction chars generalizing previous with
  | nil => rfl
  | cons char rest ih => rw [separateWhere, separateWords, ih]

/-- A rule that matches exactly where a character stands between certain neighbours. -/
structure PartingRule.Marks (rule : PartingRule)
    (starts : Option Char → Char → Option Char → Bool) : Prop where
  /-- Nothing is put before the first character. -/
  atStart : ∀ char next, starts none char next = false
  /-- Where the rule does not match nothing is put. -/
  missed : ∀ {before char rest}, rule.part? (before :: char :: rest) = none →
    starts (some before) char rest.head? = false
  /-- In a match an underscore is put where the rule parts it. -/
  found : ∀ {chars parted}, rule.part? chars = some parted → ∀ previous,
    separateWhere starts previous chars = parted.before ++
      '_' :: (parted.after ++ separateWhere starts parted.after.getLast? parted.rest)
  /-- The last character of a match begins no other. -/
  resumed : ∀ {chars parted}, rule.part? chars = some parted →
    ∀ before ∈ parted.after.getLast?, ∀ rest, rule.part? (before :: rest) = none

/-- A rule that marks the places between certain neighbours is a pass over the text. -/
theorem PartingRule.Marks.rewrite_eq {rule : PartingRule}
    {starts : Option Char → Char → Option Char → Bool} (marks : rule.Marks starts)
    (chars : List Char) (previous : Option Char)
    (unmatched : ∀ before ∈ previous, rule.part? (before :: chars) = none) :
    rule.rewrite chars = separateWhere starts previous chars := by
  induction chars using PartingRule.rewrite.induct rule generalizing previous with
  | case1 => rw [rewrite, separateWhere]
  | case2 char rest parted isParted ih =>
      rw [marks.found isParted previous, ← ih _ fun before isLast =>
        marks.resumed isParted before isLast _, rewrite]
      split
      · next other isOther =>
          cases isParted.symm.trans isOther
          rfl
      · next isNone => cases isParted.symm.trans isNone
  | case3 char rest isNone ih =>
      have nothing : starts previous char rest.head? = false := by
        cases previous with
        | none => exact marks.atStart char _
        | some before => exact marks.missed (unmatched before rfl)
      have continued : rule.rewrite rest = separateWhere starts (some char) rest := by
        apply ih
        rintro before ⟨⟩
        exact isNone
      rw [separateWhere, nothing, rewrite, ← continued]
      split
      · next parted isParted => cases isNone.symm.trans isParted
      · rfl

/-! ## The two rules -/

/-- Whether a capital follows a capital and a small letter follows it. -/
def afterCapital (previous : Option Char) (char : Char) (next : Option Char) : Bool :=
  char.isUpper && previous.any Char.isUpper && next.any Char.isLower

/-- Whether a capital follows a small letter or a digit. -/
def afterSmall (previous : Option Char) (char : Char) (_ : Option Char) : Bool :=
  char.isUpper && previous.any isSmallOrDigit

theorem isUpper_eq_false_of_isSmallOrDigit {char : Char} (isSmall : isSmallOrDigit char = true) :
    char.isUpper = false := by
  rw [← Bool.not_eq_true]
  intro isUpper
  have noSmall : isSmallOrDigit char = false :=
    of_isWordChar (fun char => char.isUpper = true → isSmallOrDigit char = false)
      (by decide +kernel) (isWordChar_of_isUpper isUpper) isUpper
  cases isSmall.symm.trans noSmall

theorem isUpper_eq_false_of_isLower {char : Char} (isLower : char.isLower = true) :
    char.isUpper = false :=
  isUpper_eq_false_of_isSmallOrDigit (Bool.or_eq_true_iff.mpr (Or.inl isLower))

theorem isLower_eq_false_of_isUpper {char : Char} (isUpper : char.isUpper = true) :
    char.isLower = false := by
  rw [← Bool.not_eq_true]
  intro isLower
  cases isUpper.symm.trans (isUpper_eq_false_of_isLower isLower)

/-- A match of an acronym begins with two capitals and ends in a small letter. -/
theorem exists_of_partAcronym? {chars : List Char} {parted : Parted}
    (found : partAcronym? chars = some parted) :
    (∃ first second rest, chars = first :: second :: rest ∧ first.isUpper = true ∧
      second.isUpper = true) ∧
      ∃ last, parted.after.getLast? = some last ∧ last.isLower = true := by
  induction chars generalizing parted with
  | nil => cases found
  | cons char rest ih =>
      obtain ⟨isUpper, ⟨inner, isInner, rfl⟩ | ⟨_, isLast⟩⟩ :=
        partAcronym?_cons_eq_some_iff.mp found
      · obtain ⟨⟨first, second, others, rfl, isFirst, _⟩, ends⟩ := ih isInner
        exact ⟨⟨char, first, second :: others, rfl, isUpper, isFirst⟩, ends⟩
      · obtain ⟨capital, small, others, rfl, isCapital, isSmall, rfl⟩ :=
          partCapital?_eq_some_iff.mp isLast
        exact ⟨⟨char, capital, small :: others, rfl, isUpper, isCapital⟩, small, rfl, isSmall⟩

/-- In a match of an acronym an underscore is put before its last capital only. -/
theorem separateWhere_of_partAcronym? {chars : List Char} {parted : Parted}
    (found : partAcronym? chars = some parted) (previous : Option Char) :
    separateWhere afterCapital previous chars = parted.before ++
      '_' :: (parted.after ++ separateWhere afterCapital parted.after.getLast? parted.rest) := by
  induction chars generalizing parted previous with
  | nil => cases found
  | cons char rest ih =>
      obtain ⟨⟨_, second, others, isChars, isUpper, isSecond⟩, _⟩ := exists_of_partAcronym? found
      obtain ⟨rfl, rfl⟩ := List.cons.inj isChars
      have nothing : afterCapital previous char (second :: others).head? = false := by
        simp [afterCapital, isLower_eq_false_of_isUpper isSecond]
      rw [separateWhere, nothing, if_neg Bool.false_ne_true]
      obtain ⟨_, ⟨inner, isInner, rfl⟩ | ⟨_, isLast⟩⟩ := partAcronym?_cons_eq_some_iff.mp found
      · rw [ih isInner, List.cons_append]
      · obtain ⟨capital, small, more, isRest, isCapital, isSmall, rfl⟩ :=
          partCapital?_eq_some_iff.mp isLast
        obtain ⟨rfl, rfl⟩ := List.cons.inj isRest
        have here : afterCapital (some char) second (some small) = true := by
          simp [afterCapital, isUpper, isCapital, isSmall]
        have noOther : afterCapital (some second) small more.head? = false := by
          simp [afterCapital, isUpper_eq_false_of_isLower isSmall]
        rw [separateWhere, List.head?_cons, here, separateWhere, noOther]
        rfl

theorem marks_acronymRule : acronymRule.Marks afterCapital where
  atStart := by simp [afterCapital]
  missed := by
    intro before char rest isNone
    rw [← Bool.not_eq_true]
    intro isMarked
    simp only [afterCapital, Option.any_some, Bool.and_eq_true] at isMarked
    obtain ⟨⟨isCapital, isUpper⟩, isSmall⟩ := isMarked
    obtain ⟨small, isHead, isLower⟩ := (Option.any_eq_true _ _).mp isSmall
    obtain ⟨others, rfl⟩ := List.head?_eq_some_iff.mp isHead
    have isMatch : ∃ parted, partAcronym? (before :: char :: small :: others) = some parted := by
      cases isInner : partAcronym? (char :: small :: others) with
      | some inner =>
          exact ⟨_, partAcronym?_cons_eq_some_iff.mpr ⟨isUpper, Or.inl ⟨inner, isInner, rfl⟩⟩⟩
      | none =>
          exact ⟨_, partAcronym?_cons_eq_some_iff.mpr ⟨isUpper, Or.inr ⟨isInner,
            partCapital?_eq_some_iff.mpr ⟨char, small, others, rfl, isCapital, isLower, rfl⟩⟩⟩⟩
    obtain ⟨parted, isParted⟩ := isMatch
    cases isParted.symm.trans isNone
  found := separateWhere_of_partAcronym?
  resumed := by
    intro chars parted found before isLast rest
    obtain ⟨_, last, isEnd, isLower⟩ := exists_of_partAcronym? found
    obtain rfl := Option.some.inj (isEnd.symm.trans isLast)
    rw [Option.eq_none_iff_forall_ne_some]
    intro other isOther
    have isUpper := (partAcronym?_cons_eq_some_iff.mp isOther).1
    cases isUpper.symm.trans (isUpper_eq_false_of_isLower isLower)

theorem marks_smallRule : smallRule.Marks afterSmall where
  atStart := by simp [afterSmall]
  missed := by
    intro before char rest isNone
    rw [← Bool.not_eq_true]
    intro isMarked
    simp only [afterSmall, Option.any_some, Bool.and_eq_true] at isMarked
    have isMatch : partSmall? (before :: char :: rest) = some ⟨[before], [char], rest⟩ :=
      partSmall?_eq_some_iff.mpr ⟨before, char, rest, rfl, isMarked.2, isMarked.1, rfl⟩
    cases isMatch.symm.trans isNone
  found := by
    intro chars parted isParted previous
    obtain ⟨first, second, others, rfl, isSmall, isUpper, rfl⟩ :=
      partSmall?_eq_some_iff.mp isParted
    have nothing : afterSmall previous first (some second) = false := by
      simp [afterSmall, isUpper_eq_false_of_isSmallOrDigit isSmall]
    have here : afterSmall (some first) second others.head? = true := by
      simp [afterSmall, isSmall, isUpper]
    rw [separateWhere, List.head?_cons, nothing, separateWhere, here]
    rfl
  resumed := by
    intro chars parted isParted before isLast rest
    obtain ⟨first, second, others, rfl, _, isUpper, rfl⟩ := partSmall?_eq_some_iff.mp isParted
    obtain rfl := Option.some.inj isLast
    rw [Option.eq_none_iff_forall_ne_some]
    intro other isOther
    obtain ⟨_, _, _, isChars, isSmall, _, _⟩ := partSmall?_eq_some_iff.mp isOther
    obtain ⟨rfl, _⟩ := List.cons.inj isChars
    cases isUpper.symm.trans (isUpper_eq_false_of_isSmallOrDigit isSmall)

/-! ## One pass -/

/-- The second pass looks at the same neighbours as the first, because an underscore of the first
pass stands between capitals. -/
theorem separateWhere_separateWhere (previous : Option Char) (chars : List Char) :
    separateWhere afterSmall previous (separateWhere afterCapital previous chars) =
      separateWhere (fun previous char next =>
        afterSmall previous char next || afterCapital previous char next) previous chars := by
  induction chars generalizing previous with
  | nil => rfl
  | cons char rest ih =>
      have ignores : ∀ other next, afterSmall previous char other = afterSmall previous char next :=
        fun _ _ => rfl
      have noUnderscore : ∀ next, afterSmall previous '_' next = false := fun _ => rfl
      have afterUnderscore : ∀ next, afterSmall (some '_') char next = false := by
        intro next
        have : isSmallOrDigit '_' = false := by decide +kernel
        simp [afterSmall, this]
      rw [separateWhere, separateWhere.eq_2 _ _ char rest]
      cases isMarked : afterCapital previous char rest.head? with
      | true =>
          rw [if_pos rfl, separateWhere, noUnderscore, if_neg Bool.false_ne_true, separateWhere,
            afterUnderscore, if_neg Bool.false_ne_true, ih, Bool.or_true, if_pos rfl]
      | false =>
          rw [if_neg Bool.false_ne_true, separateWhere, ih, Bool.or_false,
            ignores _ rest.head?]

section

variable {first second : Option Char → Char → Option Char → Bool}

/-- What is put behind a character that is in no word makes no difference to the character and
what comes after it. -/
theorem foldr_separateWhere_congr
    (same : ∀ before, isWordChar before = true → ∀ char next,
      first (some before) char next = second (some before) char next)
    (rest : List Char) (before : Char) :
    (before :: separateWhere first (some before) rest).foldr extendWords ([], []) =
      (before :: separateWhere second (some before) rest).foldr extendWords ([], []) := by
  induction rest generalizing before with
  | nil => rfl
  | cons char rest ih =>
      have later := ih char
      by_cases isWord : isWordChar before = true
      · rw [separateWhere, separateWhere, same before isWord]
        simp only [List.foldr_cons] at later
        split <;> simp only [List.foldr_cons, later]
      · have gap : isWordChar before = false := by simpa using isWord
        have put : ∀ starts : Option Char → Char → Option Char → Bool,
            (before :: separateWhere starts (some before) (char :: rest)).foldr extendWords
                ([], []) =
              ([], runs (char :: separateWhere starts (some char) rest)) := by
          intro starts
          rw [List.foldr_cons, extendWords_of_gap gap, ← runs_eq_closeWord, separateWhere]
          split
          · rw [runs_cons_of_gap (by decide)]
          · rfl
        rw [put, put, runs_eq_closeWord, later, ← runs_eq_closeWord]

/-- Passes that agree at the beginning and behind the characters of words give the same runs. -/
theorem runs_separateWhere_congr
    (atStart : ∀ char next, first none char next = second none char next)
    (same : ∀ before, isWordChar before = true → ∀ char next,
      first (some before) char next = second (some before) char next) (chars : List Char) :
    runs (separateWhere first none chars) = runs (separateWhere second none chars) := by
  cases chars with
  | nil => rfl
  | cons char rest =>
      have later : runs (char :: separateWhere first (some char) rest) =
          runs (char :: separateWhere second (some char) rest) := by
        rw [runs_eq_closeWord, foldr_separateWhere_congr same, ← runs_eq_closeWord]
      rw [separateWhere, separateWhere, atStart]
      split
      · have gap : isWordChar '_' = false := by decide
        rw [runs_cons_of_gap gap, runs_cons_of_gap gap, later]
      · exact later

end

/-- The digits of ASCII are the only decimal digits in words. -/
theorem isSmallOrDigit_of_isWordChar {char : Char} (isWord : isWordChar char = true) :
    isSmallOrDigit char = (char.isLower || char.isDigit) :=
  of_isWordChar (fun char => isSmallOrDigit char = (char.isLower || char.isDigit))
    (by decide +kernel) isWord

/-- Both rules together cut a text where its words are separated. -/
theorem runs_rewrite_rewrite (chars : List Char) :
    runs (smallRule.rewrite (acronymRule.rewrite chars)) = runs (separateWords none chars) := by
  rw [marks_acronymRule.rewrite_eq chars none nofun, marks_smallRule.rewrite_eq _ none nofun,
    separateWhere_separateWhere, ← separateWhere_startsWord]
  apply runs_separateWhere_congr
  · intro char next
    simp [afterSmall, afterCapital, startsWord]
  · intro before isWord char next
    cases next <;>
      simp [afterSmall, afterCapital, startsWord, isSmallOrDigit_of_isWordChar isWord,
        Bool.and_or_distrib_left, Bool.and_assoc]

/-! ## Gaps -/

/-- Replace each row of characters that are in no word by an underscore.  The flag says whether
the character before was such a one. -/
def squeezeGaps (afterGap : Bool) : List Char → List Char
  | [] => []
  | char :: rest =>
      if isWordChar char then char :: squeezeGaps false rest
      else if afterGap then squeezeGaps true rest
      else '_' :: squeezeGaps true rest

/-- Leave out the underscores at both ends. -/
def trimUnderscores (chars : List Char) : List Char :=
  (chars.rdropWhile (· = '_')).dropWhile (· = '_')

/-- Leaving out at the end what satisfies a test. -/
theorem rdropWhile_cons {test : Char → Bool} (char : Char) (rest : List Char) :
    (char :: rest).rdropWhile test =
      if rest.rdropWhile test = [] ∧ test char = true then []
      else char :: rest.rdropWhile test := by
  induction rest using List.reverseRecOn with
  | nil => simp [List.rdropWhile_singleton]
  | append_singleton init last ih =>
      rw [← List.cons_append]
      by_cases isTested : test last = true
      · rw [List.rdropWhile_concat_pos _ _ _ isTested,
          List.rdropWhile_concat_pos _ _ _ isTested, ih]
      · rw [List.rdropWhile_concat_neg _ _ _ isTested, List.rdropWhile_concat_neg _ _ _ isTested,
          if_neg (by simp), List.cons_append]

/-- Joined words are empty only if there are no words. -/
theorem joinWords_eq_nil_iff {words : List (List Char)} (filled : ∀ word ∈ words, word ≠ []) :
    joinWords words = [] ↔ words = [] := by
  refine ⟨fun isNil => ?_, fun isNil => isNil ▸ rfl⟩
  cases words with
  | nil => rfl
  | cons word others =>
      obtain ⟨more, isJoined⟩ := exists_flatten_intersperse '_' word others
      rw [joinWords, isJoined] at isNil
      exact absurd (List.append_eq_nil_iff.mp isNil).1 (filled word List.mem_cons_self)

/-- What is left of a text without the underscores at its end: the word at its beginning, which
may be empty, and the words after it. -/
theorem rdropWhile_squeezeGaps (chars : List Char) :
    (squeezeGaps true chars).rdropWhile (· = '_') = joinWords (runs chars) ∧
      (squeezeGaps false chars).rdropWhile (· = '_') =
        joinWords ((chars.foldr extendWords ([], [])).1 ::
          (chars.foldr extendWords ([], [])).2) := by
  induction chars with
  | nil => exact ⟨rfl, rfl⟩
  | cons char rest ih =>
      by_cases isWord : isWordChar char = true
      · have state : (char :: rest).foldr extendWords ([], []) =
            (char :: (rest.foldr extendWords ([], [])).1, (rest.foldr extendWords ([], [])).2) := by
          rw [List.foldr_cons, extendWords, if_pos isWord]
        have squeezed : ∀ afterGap, squeezeGaps afterGap (char :: rest) =
            char :: squeezeGaps false rest := fun afterGap => by rw [squeezeGaps, if_pos isWord]
        have joined : (char :: squeezeGaps false rest).rdropWhile (· = '_') =
            joinWords ((char :: (rest.foldr extendWords ([], [])).1) ::
              (rest.foldr extendWords ([], [])).2) := by
          rw [rdropWhile_cons, if_neg (by simp [ne_underscore_of_isWordChar isWord]), ih.2,
            joinWords_cons_char]
        rw [squeezed, squeezed, runs_eq_closeWord, state]
        exact ⟨joined, joined⟩
      · have gap : isWordChar char = false := by simpa using isWord
        have filled : ∀ word ∈ runs rest, word ≠ [] := fun word isRun =>
          (ne_nil_and_wordChars_of_mem_runs rest word isRun).1
        constructor
        · rw [squeezeGaps, if_neg isWord, if_pos rfl, runs_cons_of_gap gap, ih.1]
        · rw [squeezeGaps, if_neg isWord, if_neg Bool.false_ne_true, List.foldr_cons,
            extendWords_of_gap gap, ← runs_eq_closeWord, rdropWhile_cons, ih.1]
          cases isRuns : runs rest with
          | nil => rfl
          | cons word others =>
              have notNil : joinWords (word :: others) ≠ [] := fun isNil => by
                cases (joinWords_eq_nil_iff (isRuns ▸ filled)).mp isNil
              rw [if_neg fun both => notNil both.1, joinWords_cons_cons, List.nil_append]

/-- Joined words do not begin with an underscore. -/
theorem dropWhile_joinWords_runs (chars : List Char) :
    (joinWords (runs chars)).dropWhile (· = '_') = joinWords (runs chars) := by
  cases isRuns : runs chars with
  | nil => rfl
  | cons word others =>
      obtain ⟨filled, each⟩ := ne_nil_and_wordChars_of_mem_runs chars word (by simp [isRuns])
      cases word with
      | nil => exact absurd rfl filled
      | cons char letters =>
          have isWord := each char List.mem_cons_self
          rw [joinWords_cons_char, List.dropWhile_cons_of_neg]
          simpa using ne_underscore_of_isWordChar isWord

/-- With its gaps squeezed and trimmed a text consists of its joined words. -/
theorem trimUnderscores_squeezeGaps (chars : List Char) :
    trimUnderscores (squeezeGaps false chars) = joinWords (runs chars) := by
  rw [trimUnderscores, (rdropWhile_squeezeGaps chars).2]
  have trimmed := dropWhile_joinWords_runs chars
  rw [runs_eq_closeWord, closeWord] at trimmed ⊢
  split at trimmed
  · next isEmpty =>
      rw [if_pos isEmpty, List.isEmpty_iff.mp isEmpty]
      cases isDone : (chars.foldr extendWords ([], [])).2 with
      | nil => rfl
      | cons word others =>
          rw [isDone] at trimmed
          rw [joinWords_cons_cons, List.nil_append, List.dropWhile_cons_of_pos (by decide), trimmed]
  · next filled => rw [if_neg filled, trimmed]

/-- The characters of a name in snake case, reached step by step. -/
def rewrittenSnakeCase (name : String) : List Char :=
  (trimUnderscores (squeezeGaps false
    (smallRule.rewrite (acronymRule.rewrite (Text.baseText name))))).map Char.toLower

/-- Rewriting a name step by step gives its snake case. -/
theorem rewrittenSnakeCase_eq (name : String) : rewrittenSnakeCase name = snakeCaseChars name := by
  rw [rewrittenSnakeCase, trimUnderscores_squeezeGaps, runs_rewrite_rewrite]
  rfl

end ApiScaffold.Naming
