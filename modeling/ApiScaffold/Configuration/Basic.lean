import ApiScaffold.Document.Shape
import ApiScaffold.Emission.Target
import ApiScaffold.Failure

/-!
# Configurations

A configuration says what is generated and where it goes.  Its settings are checked in
a fixed order, and the first one that cannot be used is the failure.
-/

namespace ApiScaffold

/-- What is generated, and where it goes. -/
structure Configuration where
  /-- The name of the target; that there is such a target is seen when it is needed. -/
  target : String
  /-- Whether the named models are generated. -/
  models : Bool
  /-- Whether routes and handlers are generated. -/
  routes : Bool
  /-- The directory for the files; without one, one text is generated. -/
  output : Option String
  deriving DecidableEq, Repr

namespace Configuration

/-- The configuration that is used unless another one is given. -/
def default : Configuration :=
  ⟨Target.python.name, true, true, none⟩

/-- The result of checking a setting. -/
abbrev SettingCheck (α : Type) := Except ConfigurationProblem α

/-- The name of a target. -/
def targetSetting (decoded : Decoded) : SettingCheck String :=
  match decoded.form with
  | .scalar (.text name) =>
      if (Target.all.map Target.name).contains name then .ok name
      else .error (if Text.hasHalf name then .notUnicode else .notTarget)
  | _ => .error .notTarget

/-- A truth value. -/
def truthSetting (decoded : Decoded) : SettingCheck Bool :=
  match Shape.truth decoded with
  | .ok truth => .ok truth
  | .error (.issues [⟨_, .unclearTruth⟩]) => .error .unclearTruth
  | .error (.issues [⟨_, .notUnicode⟩]) => .error .notUnicode
  | .error _ => .error .notTruth

/-- A text, or nothing. -/
def textSetting (decoded : Decoded) : SettingCheck (Option String) :=
  match decoded.form with
  | .scalar .null => .ok none
  | .scalar (.text text) => .ok (some text)
  | .scalar (.bytes bytes) =>
      match Text.decode? ⟨bytes.toArray⟩ with
      | some text => .ok (some text)
      | none => .error .notUnicode
  | _ => .error .notText

/-- The setting with a name; `absent` stands for it if it is not given. -/
def setting {α : Type} (source name : String) (absent : α) (check : Decoded → SettingCheck α)
    (entries : List (Scalar × Decoded)) : Outcome α :=
  match Value.findText entries name with
  | none => .ok absent
  | some value =>
      (check value).mapError fun problem => .configuration problem (some source) (some name)

/-- The configuration with these settings; `source` names their origin in failures. -/
def ofDecoded (source : String) (settings : Decoded) : Outcome Configuration :=
  match settings.entries? with
  | some entries => do
      let target ← setting source "target" default.target targetSetting entries
      let models ← setting source "emit_models" default.models truthSetting entries
      let routes ← setting source "emit_routes" default.routes truthSetting entries
      let output ← setting source "output" default.output textSetting entries
      pure ⟨target, models, routes, output⟩
  | none => .error (.configuration .notSettings (some source) none)

/-- A table without settings gives the default configuration. -/
theorem ofDecoded_ofValue_nil (source : String) :
    ofDecoded source (.ofValue (.mapping [])) = .ok default :=
  rfl

end Configuration

end ApiScaffold
