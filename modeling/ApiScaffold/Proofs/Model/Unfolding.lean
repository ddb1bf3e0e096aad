import ApiScaffold.Proofs.Collection.Matching
import ApiScaffold.Proofs.Model.Shaped

/-!
# What models mean

A model means what is left when all references are replaced by the models that they name.
References may go round in circles by way of structs, arrays and maps, so this is a tree
without end; `Unfolds` cuts it off at a depth.  Every property and every element is one
level deeper, a reference is not.

Two models mean the same, each among its own named models, if they unfold to the same
shape at every depth.
-/

namespace ApiScaffold

/-- Whether a kind of models is made of an element. -/
def ModelKind.hasElement : ModelKind → Bool
  | .array | .map | .iterator => true
  | _ => false

/-- What can be seen of a model down to some depth. -/
inductive Shape where
  /-- Too deep to be seen. -/
  | cut
  | basic (kind : ModelKind)
  /-- A container of elements. -/
  | holder (kind : ModelKind) (element : Shape)
  | struct (properties : List (String × Shape))

namespace Model

/-- The shape of a model down to a depth.  References are looked up and followed; a model
that cannot be followed to its end has no shape. -/
inductive Unfolds (models : Entries String Model) : Nat → Model → Shape → Prop
  | cut (model : Model) : Unfolds models 0 model .cut
  | basic {depth : Nat} {kind : ModelKind} (primitive : kind.isPrimitive = true)
      (description : Option String) :
      Unfolds models (depth + 1) (ofKind kind description) (.basic kind)
  | holder {depth : Nat} {kind : ModelKind} {element : Model} {shape : Shape}
      (holds : kind.hasElement = true) (inside : Unfolds models depth element shape)
      (description : Option String) :
      Unfolds models (depth + 1) ⟨kind, some element, [], none, description⟩ (.holder kind shape)
  | struct {depth : Nat} {properties : List (String × Model)} {shapes : List (String × Shape)}
      (names : Entries.keys properties = Entries.keys shapes)
      (inside : ∀ pair ∈ properties.zip shapes, Unfolds models depth pair.1.2 pair.2.2)
      (description : Option String) :
      Unfolds models (depth + 1) (struct properties description) (.struct shapes)
  | reference {depth : Nat} {name : String} {target : Model} {shape : Shape}
      (found : models.get? name = some target) (unfolds : Unfolds models (depth + 1) target shape)
      (description : Option String) :
      Unfolds models (depth + 1) ⟨.reference, none, [], some name, description⟩ shape

variable {models : Entries String Model}

theorem Unfolds.of_matches {depth : Nat} {properties : List (String × Model)}
    {shapes : List (String × Shape)}
    (matching : Entries.Matches (Unfolds models depth) properties shapes)
    (description : Option String) :
    Unfolds models (depth + 1) (Model.struct properties description) (.struct shapes) := by
  obtain ⟨names, inside⟩ := Entries.matches_iff_keys_and_zip.mp matching
  exact .struct names inside description

/-- The shapes of some properties, if each of them has at most one. -/
theorem eq_of_matches_unique {related : Model → Shape → Prop}
    {properties : List (String × Model)} {first second : List (String × Shape)}
    (left : Entries.Matches (fun model shape => ∀ other, related model other → shape = other)
      properties first)
    (right : Entries.Matches related properties second) : first = second := by
  induction left generalizing second with
  | nil =>
      cases right
      rfl
  | @cons property shape _ _ heads _ ih =>
      cases right with
      | @cons _ other _ _ otherHeads others =>
          have sameName : shape.1 = other.1 := heads.1.symm.trans otherHeads.1
          have sameShape : shape.2 = other.2 := heads.2 other.2 otherHeads.2
          rw [ih others, Prod.ext sameName sameShape]

/-- A model has at most one shape at each depth. -/
theorem Unfolds.unique {depth : Nat} {model : Model} {first second : Shape}
    (left : Unfolds models depth model first) (right : Unfolds models depth model second) :
    first = second := by
  induction left generalizing second with
  | cut =>
      cases right
      rfl
  | basic primitive =>
      cases right with
      | basic => rfl
      | struct => cases primitive
  | holder holds _ _ ih =>
      cases right with
      | holder _ inside => rw [ih inside]
  | struct names _ _ ih =>
      cases right with
      | basic primitive => cases primitive
      | struct otherNames inside =>
          have unique := eq_of_matches_unique
            (Entries.matches_iff_keys_and_zip.mpr ⟨names, fun pair member other => ih pair member⟩)
            (Entries.matches_iff_keys_and_zip.mpr ⟨otherNames, inside⟩)
          rw [unique]
  | reference found _ _ ih =>
      cases right with
      | reference otherFound unfolds =>
          rw [found] at otherFound
          cases otherFound
          exact ih unfolds

/-- Two models have the same shape at a depth, each among its own named models. -/
def SameShape (models others : Entries String Model) (depth : Nat) (model other : Model) : Prop :=
  ∃ shape, Unfolds models depth model shape ∧ Unfolds others depth other shape

/-- Two models mean the same, each among its own named models. -/
def SameMeaning (models others : Entries String Model) (model other : Model) : Prop :=
  ∀ depth, SameShape models others depth model other

variable {others : Entries String Model} {depth : Nat}

theorem SameShape.holder {kind : ModelKind} (holds : kind.hasElement = true)
    {model other : Model} (inside : SameShape models others depth model other)
    (description own : Option String) :
    SameShape models others (depth + 1) ⟨kind, some model, [], none, description⟩
      ⟨kind, some other, [], none, own⟩ := by
  obtain ⟨shape, left, right⟩ := inside
  exact ⟨.holder kind shape, .holder holds left _, .holder holds right _⟩

theorem SameShape.struct {first second : List (String × Model)}
    (matching : Entries.Matches (SameShape models others depth) first second)
    (description own : Option String) :
    SameShape models others (depth + 1) (Model.struct first description)
      (Model.struct second own) := by
  obtain ⟨shapes, left, right⟩ := matching.exists_common
  exact ⟨.struct shapes, .of_matches left description, .of_matches right own⟩

theorem SameShape.reference_left {name : String} {target other : Model}
    (found : models.get? name = some target)
    (same : SameShape models others (depth + 1) target other) (description : Option String) :
    SameShape models others (depth + 1) ⟨.reference, none, [], some name, description⟩ other := by
  obtain ⟨shape, left, right⟩ := same
  exact ⟨shape, .reference found left description, right⟩

theorem SameShape.reference_right {name : String} {model target : Model}
    (found : others.get? name = some target)
    (same : SameShape models others (depth + 1) model target) (description : Option String) :
    SameShape models others (depth + 1) model ⟨.reference, none, [], some name, description⟩ := by
  obtain ⟨shape, left, right⟩ := same
  exact ⟨shape, left, .reference found right description⟩

/-- What means the same as a model means the same as a reference to it. -/
theorem SameMeaning.reference_right {name : String} {model target : Model}
    (found : others.get? name = some target) (same : SameMeaning models others model target)
    (description : Option String) :
    SameMeaning models others model ⟨.reference, none, [], some name, description⟩ := by
  intro depth
  cases depth with
  | zero => exact ⟨.cut, .cut _, .cut _⟩
  | succ depth => exact (same (depth + 1)).reference_right found description

theorem SameMeaning.trans {third : Entries String Model} {model middle last : Model}
    (early : SameMeaning models others model middle)
    (late : SameMeaning others third middle last) : SameMeaning models third model last := by
  intro depth
  obtain ⟨shape, left, middleLeft⟩ := early depth
  obtain ⟨other, middleRight, right⟩ := late depth
  have same := middleLeft.unique middleRight
  subst same
  exact ⟨shape, left, right⟩

end Model

end ApiScaffold
