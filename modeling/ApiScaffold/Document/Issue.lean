import ApiScaffold.Data.Value

/-!
# Issues of a document

A decoded document is checked against the shape that is expected of it.  Checking
does not stop at the first issue: the issues of all fields are collected, in the
order of the fields, and each says where it was found.  Only a number that would have to
be written out and is too long for that ends the check, whatever other issues there are.
-/

namespace ApiScaffold

/-- What is wrong with a value. -/
inductive IssueKind where
  /-- A required field is absent. -/
  | missing
  /-- Text is expected. -/
  | notText
  /-- The bytes are no UTF-8 text. -/
  | notUnicode
  /-- A mapping of entries is expected. -/
  | notMapping
  /-- A list is expected. -/
  | notList
  /-- An object with fields is expected. -/
  | notObject
  /-- The text is none of those allowed. -/
  | notListed
  /-- A truth value is expected. -/
  | notTruth
  /-- A text or a number that stands for no truth value. -/
  | unclearTruth
  /-- A key is a number that is too long to be written out. -/
  | unwritableKey
  /-- A schema contains itself. -/
  | insideItself
  /-- Schemas are nested too deeply. -/
  | tooDeep
  deriving DecidableEq, Repr

/-- Something that is wrong at a place of a document. -/
structure Issue where
  /-- The way from the root to the value: keys, and indexes of lists. -/
  location : List String
  kind : IssueKind
  deriving DecidableEq, Repr

/-- Why a value does not pass a check. -/
inductive Objection where
  | issues (issues : List Issue)
  /-- A number is too long to be written out. -/
  | unwritable
  deriving DecidableEq, Repr

/-- What is wrong with two parts of a value, those issues first that come first. -/
def Objection.join : Objection → Objection → Objection
  | .issues first, .issues second => .issues (first ++ second)
  | _, _ => .unwritable

/-- The result of checking a value: what it holds, or what is wrong with it. -/
abbrev Check (α : Type) := Except Objection α

namespace Check

/-- A value with one issue of its own. -/
def issue {α : Type} (kind : IssueKind) : Check α :=
  .error (.issues [⟨[], kind⟩])

/-- Place the issues of a part below its key. -/
def below {α : Type} (key : String) (check : Check α) : Check α :=
  check.mapError fun
    | .issues issues =>
        .issues (issues.map fun issue => { issue with location := key :: issue.location })
    | .unwritable => .unwritable

/-- Check two parts; the issues of both count, those of the first before the others. -/
def both {α β : Type} (first : Check α) (second : Check β) : Check (α × β) :=
  match first, second with
  | .ok left, .ok right => .ok (left, right)
  | .error objection, .ok _ => .error objection
  | .ok _, .error objection => .error objection
  | .error objection, .error other => .error (objection.join other)

/-- Give one more checked part to a constructor. -/
def part {α β : Type} (part : Check α) (construct : Check (α → β)) : Check β :=
  (both construct part).map fun (construct, part) => construct part

/-- Check all items of a list. -/
def all {α : Type} : List (Check α) → Check (List α)
  | [] => .ok []
  | check :: rest => (both check (all rest)).map fun (item, items) => item :: items

@[simp]
theorem both_ok {α β : Type} (left : α) (right : β) :
    both (.ok left) (.ok right) = .ok (left, right) :=
  rfl

@[simp]
theorem part_ok {α β : Type} (construct : α → β) (value : α) :
    part (.ok value) (.ok construct) = .ok (construct value) :=
  rfl

/-- A list passes exactly if all its items do. -/
theorem all_eq_ok_iff {α : Type} (checks : List (Check α)) (items : List α) :
    all checks = .ok items ↔ checks = items.map .ok := by
  induction checks generalizing items with
  | nil => cases items <;> simp [all]
  | cons check rest ih =>
      cases items with
      | nil =>
          cases check <;> cases restCheck : all rest <;> simp [all, both, restCheck, Except.map]
      | cons item items =>
          cases check <;> cases restCheck : all rest <;>
            simp_all [all, both, Except.map]

end Check

end ApiScaffold
