import ApiScaffold.Proofs.Model.Unfolding
import ApiScaffold.Proofs.Service.Expansion
import ApiScaffold.Proofs.Service.Hoisted

/-!
# Hoisting and meaning

A model and its hoisted form have the same shape at every depth, if the named models that
they refer to are hoisted forms of each other as well.  The proof goes down the depth.  At
one depth only references can be followed in a row, and the rank of the named models
bounds how many of them there are.
-/

namespace ApiScaffold

/-- Named models with the hoisted forms of others, in which references lead to an end. -/
structure HoistedFrom (mapped models : Entries String Model) : Prop where
  below : ∀ {name raw}, mapped.get? name = some raw →
    ∃ hoisted, models.get? name = some hoisted ∧ Model.HoistedBelow models raw hoisted
  resolved : ∀ {name raw}, mapped.get? name = some raw → raw.Resolved mapped
  ranked : Nonempty (ExpansionRank models)

namespace Model

variable {mapped models : Entries String Model}

/-- Hoisted forms have the shapes of what they were hoisted from, down to a depth. -/
def ShapesKept (mapped models : Entries String Model) (depth : Nat) : Prop :=
  ∀ raw hoisted, HoistedIn models raw hoisted → raw.Resolved mapped →
    SameShape models mapped depth hoisted raw

/-- One level up, structs of hoisted properties have the same shape. -/
theorem ShapesKept.struct {depth : Nat} (kept : ShapesKept mapped models depth)
    {raw hoisted : List (String × Model)}
    (matching : Entries.Matches (HoistedIn models) raw hoisted)
    {description : Option String} (resolved : (Model.struct raw description).Resolved mapped)
    (own : Option String) :
    SameShape models mapped (depth + 1) (Model.struct hoisted own)
      (Model.struct raw description) := by
  obtain ⟨names, inside⟩ := Entries.matches_iff_keys_and_zip.mp matching
  have each : Entries.Matches (fun raw hoisted => SameShape models mapped depth hoisted raw)
      raw hoisted := by
    rw [Entries.matches_iff_keys_and_zip]
    constructor
    · exact names
    · intro pair member
      have property : pair.1 ∈ raw := (List.of_mem_zip member).1
      exact kept _ _ (inside pair member) (RefersWithin.of_mem_properties resolved property)
  exact .struct each.flip own description

/-- One level up, hoisted forms have the same shape, if named models have it. -/
theorem ShapesKept.step {depth : Nat} (kept : ShapesKept mapped models depth)
    {raw hoisted : Model} (inside : HoistedIn models raw hoisted) (resolved : raw.Resolved mapped)
    (named : ∀ name target, some name ∈ hoisted.references → mapped.get? name = some target →
      ∃ found, models.get? name = some found ∧
        SameShape models mapped (depth + 1) found target) :
    SameShape models mapped (depth + 1) hoisted raw := by
  cases inside with
  | basic primitive => exact ⟨_, .basic primitive _, .basic primitive _⟩
  | array element =>
      exact .holder rfl (kept _ _ element ((refersWithin_array _ _).mp resolved)) _ _
  | map element =>
      exact .holder rfl (kept _ _ element ((refersWithin_map _ _).mp resolved)) _ _
  | struct found names properties =>
      have matching := Entries.matches_iff_keys_and_zip.mpr ⟨names, properties⟩
      exact .reference_left found (kept.struct matching resolved _) _
  | reference name =>
      have known := (refersWithin_reference _ _).mp resolved
      rcases Entries.mem_keys_iff.mp known with ⟨target, foundTarget⟩
      obtain ⟨model, found, same⟩ := named name target
        (by simp [references, elementReferences, propertyReferences]) foundTarget
      exact .reference_left found (.reference_right foundTarget same _) _

/-- One level up, named models have the same shape.  A reference is followed at the same
depth, so this goes down the rank of the name. -/
theorem ShapesKept.named (hoistedFrom : HoistedFrom mapped models) {depth : Nat}
    (kept : ShapesKept mapped models depth) {name : String} {raw : Model}
    (found : mapped.get? name = some raw) :
    ∃ hoisted, models.get? name = some hoisted ∧
      SameShape models mapped (depth + 1) hoisted raw := by
  obtain ⟨ranked⟩ := hoistedFrom.ranked
  induction rank : ranked.rank name using Nat.strong_induction_on generalizing name raw with
  | _ current ih =>
      obtain ⟨hoisted, foundHoisted, below⟩ := hoistedFrom.below found
      have resolved := hoistedFrom.resolved found
      refine ⟨hoisted, foundHoisted, ?_⟩
      cases below with
      | struct properties => exact kept.struct properties resolved _
      | other noStruct inside =>
          apply kept.step inside resolved
          intro target rawTarget refers foundTarget
          have lower : ranked.rank target < current := by
            rw [← rank]
            exact ranked.rank_lt foundHoisted inside.plain.isStruct_eq_false refers
          exact ih _ lower foundTarget rfl

/-- Hoisted forms have the shapes of what they were hoisted from, at every depth. -/
theorem shapesKept (hoistedFrom : HoistedFrom mapped models) (depth : Nat) :
    ShapesKept mapped models depth := by
  induction depth with
  | zero =>
      intro raw hoisted _ _
      exact ⟨.cut, .cut _, .cut _⟩
  | succ depth kept =>
      intro raw hoisted inside resolved
      apply kept.step inside resolved
      intro name target _ found
      exact ShapesKept.named hoistedFrom kept found

/-- A model means the same as the one that it was hoisted from. -/
theorem HoistedIn.sameMeaning {raw hoisted : Model} (inside : HoistedIn models raw hoisted)
    (hoistedFrom : HoistedFrom mapped models) (resolved : raw.Resolved mapped) :
    SameMeaning models mapped hoisted raw :=
  fun depth => shapesKept hoistedFrom depth raw hoisted inside resolved

/-- A model means the same as the one that it was hoisted from, its own struct kept. -/
theorem HoistedBelow.sameMeaning {raw hoisted : Model} (below : HoistedBelow models raw hoisted)
    (hoistedFrom : HoistedFrom mapped models) (resolved : raw.Resolved mapped) :
    SameMeaning models mapped hoisted raw := by
  intro depth
  cases depth with
  | zero => exact ⟨.cut, .cut _, .cut _⟩
  | succ depth =>
      cases below with
      | struct properties => exact (shapesKept hoistedFrom depth).struct properties resolved _
      | other _ inside => exact inside.sameMeaning hoistedFrom resolved (depth + 1)

end Model

end ApiScaffold
