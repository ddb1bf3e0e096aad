import ApiScaffold.Proofs.Collection.Matching
import ApiScaffold.Proofs.Model.Shaped
import Mathlib.Data.List.Zip

/-!
# Hoisted models

`HoistedIn` relates a model to what hoisting makes of it: every struct has become a
reference to a registered struct of hoisted properties, and all else is as it was.
Descriptions do not count.  `HoistedBelow` is the same for a model whose own struct stays
where it is.

Both speak about the models that are registered.  They stay true as long as flat models
are kept, whatever else happens to the registry.
-/

namespace ApiScaffold

/-- Flat models keep their names. -/
def KeepsFlat (models later : Entries String Model) : Prop :=
  ∀ name model, models.get? name = some model → model.Flat → later.get? name = some model

namespace KeepsFlat

theorem refl (models : Entries String Model) : KeepsFlat models models :=
  fun _ _ found _ => found

theorem trans {first second third : Entries String Model} (early : KeepsFlat first second)
    (late : KeepsFlat second third) : KeepsFlat first third :=
  fun name model found flat => late name model (early name model found flat) flat

end KeepsFlat

namespace Model

/-- A model without structs, and the model that it was hoisted from. -/
inductive HoistedIn (models : Entries String Model) : Model → Model → Prop
  | basic {kind : ModelKind} (primitive : kind.isPrimitive = true)
      (description own : Option String) :
      HoistedIn models (ofKind kind description) (ofKind kind own)
  | array {raw hoisted : Model} (element : HoistedIn models raw hoisted)
      (description own : Option String) :
      HoistedIn models (array raw description) (array hoisted own)
  | map {raw hoisted : Model} (element : HoistedIn models raw hoisted)
      (description own : Option String) :
      HoistedIn models (map raw description) (map hoisted own)
  | struct {raw hoisted : List (String × Model)} {name : String} {registered : Option String}
      (found : models.get? name = some (struct hoisted registered))
      (names : Entries.keys raw = Entries.keys hoisted)
      (properties : ∀ pair ∈ raw.zip hoisted, HoistedIn models pair.1.2 pair.2.2)
      (description own : Option String) :
      HoistedIn models (struct raw description) ⟨.reference, none, [], some name, own⟩
  | reference (name : String) (description own : Option String) :
      HoistedIn models ⟨.reference, none, [], some name, description⟩
        ⟨.reference, none, [], some name, own⟩

/-- A flat model, and the model that it was hoisted from; a struct at the top stayed. -/
inductive HoistedBelow (models : Entries String Model) : Model → Model → Prop
  | struct {raw hoisted : List (String × Model)}
      (properties : Entries.Matches (HoistedIn models) raw hoisted)
      (description own : Option String) :
      HoistedBelow models (struct raw description) (struct hoisted own)
  | other {raw hoisted : Model} (noStruct : raw.isStruct = false)
      (inside : HoistedIn models raw hoisted) : HoistedBelow models raw hoisted

variable {models : Entries String Model}

/-- No struct is left in a hoisted model. -/
theorem HoistedIn.plain {raw hoisted : Model} (inside : HoistedIn models raw hoisted) :
    hoisted.Plain := by
  cases inside with
  | basic primitive => exact .basic primitive _
  | array element => exact .array element.plain _
  | map element => exact .map element.plain _
  | struct => exact .reference _ _
  | reference => exact .reference _ _

theorem plain_of_matches_hoistedIn {raw hoisted : List (String × Model)}
    (matching : Entries.Matches (HoistedIn models) raw hoisted) :
    ∀ property ∈ hoisted, property.2.Plain := by
  intro property member
  obtain ⟨_, _, inside⟩ := matching.exists_left member
  exact inside.plain

/-- A hoisted model refers to what the model refers to, and to registered structs. -/
theorem HoistedIn.sourced {source : String → Prop} {raw hoisted : Model}
    (inside : HoistedIn models raw hoisted) (within : raw.RefersWithin source) :
    hoisted.Sourced source models := by
  induction inside with
  | basic primitive =>
      intro name refers
      simp [references_ofKind primitive] at refers
  | array _ _ _ ih =>
      exact (refersWithin_array _ _).mpr (ih ((refersWithin_array _ _).mp within))
  | map _ _ _ ih =>
      exact (refersWithin_map _ _).mpr (ih ((refersWithin_map _ _).mp within))
  | struct found =>
      exact (refersWithin_reference _ _).mpr
        (Or.inr (Entries.mem_keys_iff.mpr ⟨_, found⟩))
  | reference =>
      exact (refersWithin_reference _ _).mpr (Or.inl ((refersWithin_reference _ _).mp within))

/-- Hoisted properties refer to what the properties refer to, and to registered structs. -/
theorem sourced_of_matches_hoistedIn {source : String → Prop} {raw hoisted : List (String × Model)}
    (matching : Entries.Matches (HoistedIn models) raw hoisted) {description : Option String}
    (within : (Model.struct raw description).RefersWithin source) (own : Option String) :
    (Model.struct hoisted own).Sourced source models := by
  rw [Sourced, refersWithin_struct]
  intro property member
  rcases matching.exists_left member with ⟨_, rawMember, inside⟩
  exact inside.sourced ((refersWithin_struct raw description).mp within _ rawMember)

theorem HoistedBelow.sourced {source : String → Prop} {raw hoisted : Model}
    (below : HoistedBelow models raw hoisted) (within : raw.RefersWithin source) :
    hoisted.Sourced source models := by
  cases below with
  | struct properties => exact sourced_of_matches_hoistedIn properties within _
  | other _ inside => exact inside.sourced within

/-- What a hoisted model and all registered models refer to within, the model itself does. -/
theorem HoistedIn.refersWithin {names : String → Prop} {raw hoisted : Model}
    (inside : HoistedIn models raw hoisted)
    (registered : ∀ {name model}, models.get? name = some model → model.RefersWithin names)
    (within : hoisted.RefersWithin names) : raw.RefersWithin names := by
  induction inside with
  | basic primitive =>
      intro name refers
      simp [references_ofKind primitive] at refers
  | array _ _ _ ih =>
      exact (refersWithin_array _ _).mpr (ih ((refersWithin_array _ _).mp within))
  | map _ _ _ ih =>
      exact (refersWithin_map _ _).mpr (ih ((refersWithin_map _ _).mp within))
  | @struct raw hoisted _ _ found keys _ _ _ ih =>
      have matching : Entries.Matches
          (fun raw hoisted => hoisted.RefersWithin names → raw.RefersWithin names) raw hoisted :=
        Entries.matches_iff_keys_and_zip.mpr ⟨keys, ih⟩
      have properties := (refersWithin_struct _ _).mp (registered found)
      rw [refersWithin_struct]
      intro property member
      rcases matching.exists_right member with ⟨_, inHoisted, carries⟩
      exact carries (properties _ inHoisted)
  | reference =>
      exact (refersWithin_reference _ _).mpr ((refersWithin_reference _ _).mp within)

theorem HoistedBelow.refersWithin {names : String → Prop} {raw hoisted : Model}
    (below : HoistedBelow models raw hoisted)
    (registered : ∀ {name model}, models.get? name = some model → model.RefersWithin names)
    (within : hoisted.RefersWithin names) : raw.RefersWithin names := by
  cases below with
  | struct properties =>
      rw [refersWithin_struct] at within ⊢
      intro property member
      rcases properties.exists_right member with ⟨_, inHoisted, inside⟩
      exact inside.refersWithin registered (within _ inHoisted)
  | other _ inside => exact inside.refersWithin registered within

theorem HoistedBelow.flat {raw hoisted : Model} (below : HoistedBelow models raw hoisted) :
    hoisted.Flat := by
  cases below with
  | struct properties => exact .struct (plain_of_matches_hoistedIn properties) _
  | other _ inside => exact .plain inside.plain

/-- A plain model is its own hoisted form. -/
theorem Plain.hoistedIn {model : Model} (plain : model.Plain) : HoistedIn models model model := by
  induction plain with
  | basic primitive => exact .basic primitive _ _
  | array _ _ ih => exact .array ih _ _
  | map _ _ ih => exact .map ih _ _
  | reference => exact .reference _ _ _

/-- Descriptions of a hoisted model do not count. -/
theorem HoistedIn.of_bare_eq {raw hoisted other : Model} (inside : HoistedIn models raw hoisted)
    (equal : other.bare = hoisted.bare) : HoistedIn models raw other := by
  induction inside generalizing other with
  | basic primitive =>
      obtain ⟨own, rfl⟩ := exists_eq_ofKind_of_bare_eq equal
      exact .basic primitive _ _
  | array _ _ _ ih =>
      obtain ⟨element, own, rfl, sameElement⟩ := exists_element_of_bare_eq equal
      exact .array (ih sameElement) _ _
  | map _ _ _ ih =>
      obtain ⟨element, own, rfl, sameElement⟩ := exists_element_of_bare_eq equal
      exact .map (ih sameElement) _ _
  | @struct raw hoisted name registered found names properties description own ih =>
      obtain ⟨own, rfl⟩ := eq_reference_of_bare_eq equal
      exact .struct found names properties _ _
  | reference name =>
      obtain ⟨own, rfl⟩ := eq_reference_of_bare_eq equal
      exact .reference _ _ _

/-- Descriptions of hoisted properties do not count. -/
theorem matches_hoistedIn_of_bare_eq {raw hoisted others : List (String × Model)}
    (matching : Entries.Matches (HoistedIn models) raw hoisted)
    (equal : bareProperties others = bareProperties hoisted) :
    Entries.Matches (HoistedIn models) raw others := by
  induction matching generalizing others with
  | nil =>
      cases others with
      | nil => exact .nil
      | cons => simp [bareProperties] at equal
  | @cons left right _ _ heads _ ih =>
      obtain ⟨name, model⟩ := right
      cases others with
      | nil => simp [bareProperties] at equal
      | cons other rest =>
          obtain ⟨otherName, otherModel⟩ := other
          simp only [bareProperties, List.cons.injEq, Prod.mk.injEq] at equal
          obtain ⟨⟨sameName, sameModel⟩, sameRest⟩ := equal
          exact .cons ⟨heads.1.trans sameName.symm, heads.2.of_bare_eq sameModel⟩ (ih sameRest)

/-- A reference stands for a struct if the struct, or one that differs in descriptions only,
is registered under its name. -/
theorem HoistedIn.of_registered {raw hoisted : List (String × Model)}
    (matching : Entries.Matches (HoistedIn models) raw hoisted) {name : String}
    {existing : Model} {own : Option String} (found : models.get? name = some existing)
    (equal : existing.bare = (Model.struct hoisted own).bare) (description : Option String) :
    HoistedIn models (Model.struct raw description) (Model.reference name) := by
  obtain ⟨others, registered, rfl, sameProperties⟩ := exists_properties_of_bare_eq equal
  obtain ⟨names, properties⟩ := Entries.matches_iff_keys_and_zip.mp
    (matches_hoistedIn_of_bare_eq matching sameProperties)
  exact .struct found names properties _ _

/-- Plain properties are their own hoisted form. -/
theorem matches_hoistedIn_self {properties : List (String × Model)}
    (plain : ∀ property ∈ properties, property.2.Plain) :
    Entries.Matches (HoistedIn models) properties properties := by
  induction properties with
  | nil => exact .nil
  | cons property rest ih =>
      exact .cons ⟨rfl, (plain property List.mem_cons_self).hoistedIn⟩
        (ih fun other member => plain other (List.mem_cons_of_mem property member))

/-- A flat model is its own hoisted form. -/
theorem Flat.hoistedBelow {model : Model} (flat : model.Flat) :
    HoistedBelow models model model := by
  cases flat with
  | plain plain => exact .other plain.isStruct_eq_false plain.hoistedIn
  | struct plain description => exact .struct (matches_hoistedIn_self plain) _ _

/-- What differs from a flat model in descriptions only is flat. -/
theorem Flat.of_bare_eq {model other : Model} (flat : model.Flat)
    (equal : other.bare = model.bare) : other.Flat := by
  cases flat with
  | plain plain =>
      have inside : HoistedIn [] model other := plain.hoistedIn.of_bare_eq equal
      exact .plain inside.plain
  | struct plain description =>
      obtain ⟨others, own, rfl, sameProperties⟩ := exists_properties_of_bare_eq equal
      have matching : Entries.Matches (HoistedIn []) _ others :=
        matches_hoistedIn_of_bare_eq (matches_hoistedIn_self plain) sameProperties
      exact .struct (plain_of_matches_hoistedIn matching) own

end Model

end ApiScaffold
