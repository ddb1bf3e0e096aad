import ApiScaffold.Proofs.Collection.LastWritten
import ApiScaffold.Proofs.Service.Built
import ApiScaffold.Proofs.Service.Inlining

/-!
# Parameters that are merged

An operation takes the parameters of its path item and its own ones.  Each of them is resolved to
a parameter and a location first.  Of those with the same name at the same location only the last
one counts, in the place of the first one.

A pointer is resolved to what the components have under its name.  This was made of the definition
that the pointer leads to, so a parameter in a path is mandatory in this case as well.
-/

namespace ApiScaffold

/-! ## Locations -/

/-- A location is found under its name only. -/
theorem ParameterLocation.ofName?_eq_some_iff {name : String} {location : ParameterLocation} :
    ofName? name = some location ↔ name = location.name := by
  constructor
  · intro found
    have same := List.find?_some found
    exact (of_decide_eq_true same).symm
  · rintro rfl
    cases location <;> rfl

theorem ParameterLocation.bind_ofName?_eq_some_iff {name : Option String}
    {location : ParameterLocation} :
    name.bind ofName? = some location ↔ name = some location.name := by
  cases name with
  | none => simp
  | some name => simp [ofName?_eq_some_iff]

/-- The parameters that are given at a location. -/
def OperationInput.givenAt (input : OperationInput) : ParameterLocation → List Parameter
  | .path => input.path
  | .query => input.query
  | .header => input.header

/-- The parameters among resolved ones that are given at a location. -/
def resolvedAt (resolved : List (ParameterLocation × Parameter)) (location : ParameterLocation) :
    List Parameter :=
  (resolved.filter fun entry => entry.1 = location).map Prod.snd

/-! ## Objects and parameters -/

/-- Whether a parameter is made of an object, and then hoisted. -/
def ParameterObject.Makes (object : ParameterObject) (parameter : Parameter) : Prop :=
  ∃ context made, Parameter.ofObject object context = .ok made ∧ parameter.HoistedFrom made

/-- An object with a known location, a name and a schema. -/
structure ParameterObject.IsUsable (object : ParameterObject) : Prop where
  located : ∃ location : ParameterLocation, object.location = some location.name
  named : ∃ name, object.name = some name ∧ name ≠ ""
  hasSchema : ∃ schema, object.schema = some schema

/-- An object with a name and a schema, which says whether a parameter is mandatory. -/
structure ParameterObject.Describes (object : ParameterObject) (parameter : Parameter) : Prop where
  named : ∃ name, object.name = some name ∧ name ≠ ""
  hasSchema : ∃ schema, object.schema = some schema
  mandatory : parameter.mandatory = (object.required.getD false || object.location = some "path")

/-- A parameter is described by the object that it is made of. -/
theorem Parameter.describes_of_ofObject {object : ParameterObject} {context : String}
    {parameter : Parameter} (built : ofObject object context = .ok parameter) :
    object.Describes parameter := by
  rcases ofObject_spec built with ⟨hasName, schema, hasSchema, _⟩
  refine ⟨⟨parameter.name, hasName, name_ne_empty built⟩, ⟨schema, hasSchema⟩, ?_⟩
  unfold ofObject at built
  split at built
  · cases built
  · cases built
  · rcases Outcome.bind_eq_ok_iff.mp built with ⟨model, _, rest⟩
    cases rest
    rfl

theorem ParameterObject.Makes.describes {object : ParameterObject} {parameter : Parameter}
    (makes : object.Makes parameter) : object.Describes parameter := by
  rcases makes with ⟨context, made, built, owner, registry, rfl⟩
  have described := Parameter.describes_of_ofObject built
  exact ⟨described.named, described.hasSchema, described.mandatory⟩

namespace Definitions

/-- What an object is resolved to: an object without a pointer makes a parameter, and a pointer
stands for the parameter of the components that the definition at its end makes.  The definition
says where the parameter is given. -/
inductive Resolves (definitions : Definitions) (operationId : String) :
    ParameterObject → ParameterLocation × Parameter → Prop
  | own {object : ParameterObject} {location : ParameterLocation} {parameter : Parameter}
      (ref : object.ref = none) (located : object.location = some location.name)
      (built : Parameter.ofObject object operationId = .ok parameter) :
      Resolves definitions operationId object (location, parameter)
  | component {object definition : ParameterObject} {pointer : String}
      {location : ParameterLocation} {parameter : Parameter} (ref : object.ref = some pointer)
      (leads : definitions.document.LeadsTo object definition)
      (located : definition.location = some location.name)
      (known : definitions.parameters.get? (pointerName pointer) = some parameter)
      (makes : definition.Makes parameter) :
      Resolves definitions operationId object (location, parameter)

variable {definitions : Definitions} {operationId : String}

/-- A resolved object leads to a definition with the location, which describes the parameter. -/
theorem Resolves.exists_definition {object : ParameterObject}
    {resolved : ParameterLocation × Parameter}
    (resolves : definitions.Resolves operationId object resolved) :
    ∃ definition, definitions.document.LeadsTo object definition ∧
      definition.location = some resolved.1.name ∧ definition.Describes resolved.2 := by
  cases resolves with
  | own ref located built =>
      exact ⟨object, .self ref, located, Parameter.describes_of_ofObject built⟩
  | component ref leads located known makes => exact ⟨_, leads, located, makes.describes⟩

/-- Every definition of an object that is resolved is usable. -/
theorem Resolves.isUsable {object definition : ParameterObject}
    {resolved : ParameterLocation × Parameter}
    (resolves : definitions.Resolves operationId object resolved)
    (leads : definitions.document.LeadsTo object definition) : definition.IsUsable := by
  rcases resolves.exists_definition with ⟨other, otherLeads, located, described⟩
  rw [← otherLeads.unique leads]
  exact ⟨⟨_, located⟩, described.named, described.hasSchema⟩

/-- What is resolved to a place in a path is mandatory. -/
theorem Resolves.mandatory {object : ParameterObject} {parameter : Parameter}
    (resolves : definitions.Resolves operationId object (.path, parameter)) :
    parameter.mandatory = true := by
  rcases resolves.exists_definition with ⟨definition, _, located, described⟩
  rw [described.mandatory, located]
  simp [ParameterLocation.name]

/-- What a parameter of the components is: made of the definition that its object leads to. -/
theorem makes_of_get? {document : Document} (defined : document.definitions = .ok definitions)
    {name : String} {object definition : ParameterObject} {parameter : Parameter}
    (found : document.parameters.get? name = some object)
    (leads : document.LeadsTo object definition)
    (known : definitions.parameters.get? name = some parameter) : definition.Makes parameter := by
  rcases Document.definitions_spec defined with ⟨_, declared, isDeclared, matching⟩
  rcases Document.exists_declaredParameter isDeclared found leads with
    ⟨made, context, isMade, built⟩
  rcases matching.get?_right isMade with ⟨other, isOther, isHoisted⟩
  rw [known] at isOther
  cases isOther
  exact ⟨context, made, built, isHoisted⟩

/-- A parameter of an operation is what its object is resolved to. -/
theorem resolves_of_parameterFor {document : Document}
    (defined : document.definitions = .ok definitions) {object : ParameterObject}
    {resolved : ParameterLocation × Parameter}
    (built : definitions.parameterFor operationId object = .ok resolved) :
    definitions.Resolves operationId object resolved := by
  rcases resolved with ⟨location, parameter⟩
  rw [parameterFor] at built
  cases ref : object.ref with
  | none =>
      rw [ref] at built
      rcases Outcome.bind_eq_ok_iff.mp built with ⟨made, isMade, rest⟩
      rcases eq_of_located rest with ⟨hasLocation, rfl⟩
      exact .own ref (ParameterLocation.bind_ofName?_eq_some_iff.mp hasLocation) isMade
  | some pointer =>
      rw [ref] at built
      rcases Outcome.bind_eq_ok_iff.mp built with ⟨definition, resolved, rest⟩
      have leads := Document.leadsTo_of_resolve resolved
      cases known : definitions.parameters.get? (pointerName pointer) with
      | none =>
          rw [known] at rest
          cases rest
      | some other =>
          rw [known] at rest
          rcases eq_of_located rest with ⟨hasLocation, rfl⟩
          have located := ParameterLocation.bind_ofName?_eq_some_iff.mp hasLocation
          refine .component ref leads located known ?_
          rw [(Document.definitions_spec defined).1] at leads
          cases leads with
          | self noPointer => cases ref.symm.trans noPointer
          | step samePointer found leadsNext =>
              cases ref.symm.trans samePointer
              exact makes_of_get? defined found leadsNext known

/-! ## Merging -/

/-- The name and the location of a resolved parameter, with the parameter itself. -/
def keyed (resolved : ParameterLocation × Parameter) :
    (String × ParameterLocation) × Parameter :=
  ((resolved.2.name, resolved.1), resolved.2)

/-- The merged parameters are what the objects are resolved to, written under their names and
locations. -/
theorem exists_resolved_of_mergedParameters {document : Document}
    (defined : document.definitions = .ok definitions) {objects : List ParameterObject}
    {merged : Entries (String × ParameterLocation) Parameter}
    (built : definitions.mergedParameters operationId objects = .ok merged) :
    ∃ resolved, List.Forall₂ (definitions.Resolves operationId) objects resolved ∧
      merged = Entries.ofList (resolved.map keyed) := by
  rcases Outcome.bind_eq_ok_iff.mp built with ⟨resolved, each, rest⟩
  cases rest
  refine ⟨resolved, ?_, rfl⟩
  exact List.Forall₂.imp (fun _ _ step => resolves_of_parameterFor defined step)
    (Outcome.mapM_eq_ok_iff.mp each)

/-- A name and a location are written if a parameter with this name is given there. -/
theorem mem_keys_keyed_iff {resolved : List (ParameterLocation × Parameter)} {name : String}
    {location : ParameterLocation} :
    (name, location) ∈ Entries.keys (resolved.map keyed) ↔
      name ∈ (resolvedAt resolved location).map Parameter.name := by
  constructor
  · intro member
    rcases List.mem_map.mp member with ⟨entry, isEntry, same⟩
    rcases List.mem_map.mp isEntry with ⟨item, isItem, rfl⟩
    cases same
    exact List.mem_map_of_mem (List.mem_map_of_mem (List.mem_filter.mpr ⟨isItem, by simp⟩))
  · intro member
    rcases List.mem_map.mp member with ⟨parameter, isGiven, rfl⟩
    rcases List.mem_map.mp isGiven with ⟨item, isKept, rfl⟩
    rcases List.mem_filter.mp isKept with ⟨isItem, isHere⟩
    rw [← of_decide_eq_true isHere]
    exact List.mem_map_of_mem (List.mem_map_of_mem isItem)

/-- The merged parameters at a location are those that are given there, merged by their names. -/
theorem parametersAt_ofList (resolved : List (ParameterLocation × Parameter))
    (location : ParameterLocation) :
    parametersAt (Entries.ofList (resolved.map keyed)) location =
      (Entries.ofList ((resolvedAt resolved location).map
        fun parameter => (parameter.name, parameter))).map Prod.snd := by
  have sameLocation : ∀ key ∈ Entries.keys ((resolved.map keyed).filter
      fun entry => entry.1.2 = location), key.2 = location := by
    intro key member
    rcases List.mem_map.mp member with ⟨entry, isKept, rfl⟩
    simpa using List.of_mem_filter isKept
  have renamed := Entries.map_ofList Prod.fst _ fun key isKey other isOther sameName =>
    Prod.ext sameName ((sameLocation key isKey).trans (sameLocation other isOther).symm)
  have entries : ((resolved.map keyed).filter fun entry => entry.1.2 = location).map
      (fun entry => (entry.1.1, entry.2)) =
        (resolvedAt resolved location).map fun parameter => (parameter.name, parameter) := by
    rw [List.filter_map, List.map_map, resolvedAt, List.map_map]
    rfl
  rw [← entries, ← renamed, List.map_map]
  have kept := Entries.filter_ofList (fun key => decide (key.2 = location)) (resolved.map keyed)
  exact congrArg (List.map Prod.snd) kept

/-- The names of merged parameters are in the order in which they first occur. -/
theorem map_name_parametersAt (resolved : List (ParameterLocation × Parameter))
    (location : ParameterLocation) :
    (parametersAt (Entries.ofList (resolved.map keyed)) location).map Parameter.name =
      ((resolvedAt resolved location).map Parameter.name).eraseDups := by
  rw [parametersAt_ofList, List.map_map]
  have named : ∀ entry ∈ Entries.ofList ((resolvedAt resolved location).map
      fun parameter => (parameter.name, parameter)), entry.2.name = entry.1 := by
    intro entry member
    rcases List.mem_map.mp (Entries.mem_of_mem_ofList member) with ⟨parameter, _, rfl⟩
    rfl
  calc
    (Entries.ofList ((resolvedAt resolved location).map
        fun parameter => (parameter.name, parameter))).map (Parameter.name ∘ Prod.snd) =
        Entries.keys (Entries.ofList ((resolvedAt resolved location).map
          fun parameter => (parameter.name, parameter))) := List.map_congr_left named
    _ = ((resolvedAt resolved location).map Parameter.name).eraseDups := by
        rw [Entries.keys_ofList, Entries.keys, List.map_map]
        rfl

/-- The merged parameters are the last ones with their names at their locations. -/
theorem mem_parametersAt_iff {resolved : List (ParameterLocation × Parameter)}
    {location : ParameterLocation} {parameter : Parameter} :
    parameter ∈ parametersAt (Entries.ofList (resolved.map keyed)) location ↔
      ∃ before after, resolved = before ++ (location, parameter) :: after ∧
        parameter.name ∉ (resolvedAt after location).map Parameter.name := by
  have isEntry : parameter ∈ parametersAt (Entries.ofList (resolved.map keyed)) location ↔
      ((parameter.name, location), parameter) ∈ Entries.ofList (resolved.map keyed) := by
    simp only [parametersAt, List.mem_map, List.mem_filter, decide_eq_true_eq]
    constructor
    · rintro ⟨entry, ⟨member, rfl⟩, rfl⟩
      rcases List.mem_map.mp (Entries.mem_of_mem_ofList member) with ⟨_, _, rfl⟩
      exact member
    · intro member
      exact ⟨_, ⟨member, rfl⟩, rfl⟩
  rw [isEntry, Entries.mem_ofList_iff, Entries.lastWritten_map_iff]
  simp only [mem_keys_keyed_iff]
  constructor
  · rintro ⟨before, ⟨other, item⟩, after, rfl, same, absent⟩
    simp only [keyed, Prod.mk.injEq] at same
    rcases same with ⟨⟨_, rfl⟩, rfl⟩
    exact ⟨before, after, rfl, absent⟩
  · rintro ⟨before, after, rfl, absent⟩
    exact ⟨before, _, after, rfl, rfl, absent⟩

end Definitions

/-- The parameters of an input, merged from resolved ones. -/
structure OperationInput.Merges (input : OperationInput)
    (resolved : List (ParameterLocation × Parameter)) : Prop where
  /-- No name is given twice at a location. -/
  distinct : ∀ location, ((input.givenAt location).map Parameter.name).Nodup
  /-- The names are those of the resolved parameters, in the order in which they first occur. -/
  names : ∀ location, (input.givenAt location).map Parameter.name =
    ((resolvedAt resolved location).map Parameter.name).eraseDups
  /-- Each parameter is the last resolved one with its name at its location. -/
  last : ∀ location parameter, parameter ∈ input.givenAt location ↔
    ∃ before after, resolved = before ++ (location, parameter) :: after ∧
      parameter.name ∉ (resolvedAt after location).map Parameter.name
  /-- Whatever is given in the path is mandatory. -/
  mandatory : ∀ parameter ∈ input.path, parameter.mandatory = true

/-- The parameters that are declared for an operation: those of its path item, then its own. -/
def DeclaredOperation.parameters (declared : DeclaredOperation) : List ParameterObject :=
  declared.shared ++ declared.object.parameters.getD []

namespace Definitions

variable {definitions : Definitions} {document : Document}

/-- An input with merged parameters at its locations. -/
theorem merges_parametersAt {operationId : String} {objects : List ParameterObject}
    {resolved : List (ParameterLocation × Parameter)}
    {merged : Entries (String × ParameterLocation) Parameter}
    (resolves : List.Forall₂ (definitions.Resolves operationId) objects resolved)
    (isMerged : merged = Entries.ofList (resolved.map keyed)) (body : Option Model) :
    OperationInput.Merges ⟨parametersAt merged .path, parametersAt merged .query,
      parametersAt merged .header, body⟩ resolved := by
  subst isMerged
  have given : ∀ location, OperationInput.givenAt
      ⟨parametersAt (Entries.ofList (resolved.map keyed)) .path,
        parametersAt (Entries.ofList (resolved.map keyed)) .query,
        parametersAt (Entries.ofList (resolved.map keyed)) .header, body⟩ location =
      parametersAt (Entries.ofList (resolved.map keyed)) location := by
    intro location
    cases location <;> rfl
  constructor
  · intro location
    rw [given, map_name_parametersAt]
    exact Entries.nodup_eraseDups _
  · intro location
    rw [given, map_name_parametersAt]
  · intro location parameter
    rw [given, mem_parametersAt_iff]
  · intro parameter member
    rcases mem_parametersAt_iff.mp member with ⟨before, after, rfl, _⟩
    rcases Entries.exists_left_of_forall₂ resolves (List.mem_append_right before
      List.mem_cons_self) with ⟨object, _, isResolved⟩
    exact isResolved.mandatory

/-- The parameters of a built operation are merged from what its objects are resolved to. -/
theorem exists_merged_of_build (defined : document.definitions = .ok definitions)
    {declared : DeclaredOperation} {operation : Operation} {diagnostics : List Diagnostic}
    (built : definitions.build declared = .ok (operation, diagnostics)) :
    ∃ resolved, List.Forall₂ (definitions.Resolves operation.id) declared.parameters resolved ∧
      operation.input.Merges resolved := by
  rcases operationAt_eq_ok_iff.mp built with ⟨merged, body, _, _, isBuilt, _, _, rfl⟩
  rcases exists_resolved_of_mergedParameters defined isBuilt with ⟨resolved, resolves, isMerged⟩
  exact ⟨resolved, resolves, merges_parametersAt resolves isMerged body⟩

/-- An object that leads to an unusable definition keeps an operation from being built. -/
theorem exists_failure_of_unusable (defined : document.definitions = .ok definitions)
    {declared : DeclaredOperation} {object definition : ParameterObject}
    (member : object ∈ declared.parameters) (leads : document.LeadsTo object definition)
    (unusable : ¬ definition.IsUsable) :
    ∃ failure, definitions.build declared = .error failure := by
  cases built : definitions.build declared with
  | error failure => exact ⟨failure, rfl⟩
  | ok result =>
      rcases exists_merged_of_build defined built with ⟨resolved, resolves, _⟩
      rcases Entries.exists_right_of_forall₂ resolves member with ⟨_, _, isResolved⟩
      rw [← (Document.definitions_spec defined).1] at leads
      exact absurd (isResolved.isUsable leads) unusable

end Definitions

namespace Document

/-- How the parameters of a declared operation of a document are merged. -/
structure MergesParameters (document : Document) (declared : DeclaredOperation) : Prop where
  /-- An operation that is built has merged parameters. -/
  built : ∀ definitions operation diagnostics, document.definitions = .ok definitions →
    definitions.build declared = .ok (operation, diagnostics) →
      ∃ resolved, List.Forall₂ (definitions.Resolves operation.id) declared.parameters resolved ∧
        operation.input.Merges resolved
  /-- It is not built if any parameter leads to an unusable definition. -/
  refused : ∀ object ∈ declared.parameters, ∀ definition, document.LeadsTo object definition →
    ¬ definition.IsUsable →
      (∀ definitions, document.definitions = .ok definitions →
        ∃ failure, definitions.build declared = .error failure) ∧
          ∃ failure, document.service = .error failure
  /-- In a service it was built, and hoisting only changed the models of parameters. -/
  kept : ∀ service, document.service = .ok service →
    ∃ definitions operation diagnostics, document.definitions = .ok definitions ∧
      definitions.build declared = .ok (operation, diagnostics) ∧
        ∃ hoisted ∈ service.operations, hoisted.HoistedFrom operation ∧
          ∀ location, List.Forall₂ (fun parameter result => result.HoistedFrom parameter)
            (operation.input.givenAt location) (hoisted.input.givenAt location)

/-- A declared operation of a service was built. -/
theorem exists_built_of_service {document : Document} {service : Service}
    (isService : document.service = .ok service) {declared : DeclaredOperation}
    (member : declared ∈ document.declaredOperations) :
    ∃ definitions operation diagnostics, document.definitions = .ok definitions ∧
      definitions.build declared = .ok (operation, diagnostics) ∧
        ∃ hoisted ∈ service.operations, hoisted.HoistedFrom operation := by
  rcases exists_definitions_of_service isService with
    ⟨definitions, operations, defined, built, hoisted⟩
  rcases Outcome.bind_eq_ok_iff.mp built with ⟨results, each, wrapped⟩
  rcases Prod.mk.inj (Except.ok.inj wrapped) with ⟨rfl, _⟩
  rw [(definitions_spec defined).1] at each
  rcases Outcome.exists_of_mapM_eq_ok each member with ⟨⟨operation, diagnostics⟩, isResult, step⟩
  rcases Entries.exists_right_of_forall₂ hoisted (List.mem_map_of_mem isResult) with
    ⟨result, inService, isHoisted⟩
  exact ⟨definitions, operation, diagnostics, defined, step, result, inService, isHoisted⟩

end Document

theorem Operation.HoistedFrom.givenAt {hoisted operation : Operation}
    (isHoisted : hoisted.HoistedFrom operation) (location : ParameterLocation) :
    List.Forall₂ (fun parameter result => result.HoistedFrom parameter)
      (operation.input.givenAt location) (hoisted.input.givenAt location) := by
  rcases isHoisted with ⟨registry, rfl⟩
  cases location <;> exact forall₂_hoistOperationParameters _ _ _

namespace Document

/-- The parameters of every declared operation are merged as they should be: the last one with a
name at a location counts, and an unusable one is refused. -/
theorem mergesParameters {document : Document} {declared : DeclaredOperation}
    (isDeclared : declared ∈ document.declaredOperations) :
    document.MergesParameters declared := by
  constructor
  · intro definitions operation diagnostics defined built
    exact Definitions.exists_merged_of_build defined built
  · intro object member definition leads unusable
    constructor
    · intro definitions defined
      exact Definitions.exists_failure_of_unusable defined member leads unusable
    · cases isService : document.service with
      | error failure => exact ⟨failure, rfl⟩
      | ok service =>
          rcases exists_built_of_service isService isDeclared with
            ⟨definitions, operation, diagnostics, defined, built, _⟩
          rcases Definitions.exists_failure_of_unusable defined member leads unusable with
            ⟨failure, failed⟩
          cases built.symm.trans failed
  · intro service isService
    rcases exists_built_of_service isService isDeclared with
      ⟨definitions, operation, diagnostics, defined, built, hoisted, inService, isHoisted⟩
    exact ⟨definitions, operation, diagnostics, defined, built, hoisted, inService, isHoisted,
      isHoisted.givenAt⟩

end Document

/-- A parameter with a schema for texts. -/
def textParameter (name location : String) : ParameterObject :=
  ⟨none, some name, some location, none, none, none, some .text⟩

/-- The operation that reads a parcel: its path item has a key in the path and a page in the
query, and its own key comes from the components. -/
def readParcel : DeclaredOperation where
  uri := "/parcels"
  method := .get
  shared := [textParameter "key" "path", textParameter "page" "query"]
  object := ⟨none, none, none, none, some [textParameter "size" "query",
    ⟨some "#/components/parameters/Own", none, none, none, none, none, none⟩], none, none⟩

/-- The document of the operation, in which the key has a description. -/
def parcelDocument : Document where
  openapi := "3.0.0"
  info := none
  paths := [("/parcels", ⟨none, none, [(.get, readParcel.object)], some readParcel.shared⟩)]
  components := some {
    schemas := none
    responses := none
    parameters := some
      [("Own", ⟨some "#/components/parameters/Key", none, none, none, none, none, none⟩),
        ("Key", { textParameter "key" "path" with description := some "The key." })]
    requestBodies := none
    headers := none }

/-- The operation is built.  Its only key is the one of the components, which is mandatory. -/
theorem mergesParameters_readParcel : parcelDocument.MergesParameters readParcel ∧
    ∃ definitions operation diagnostics, parcelDocument.definitions = .ok definitions ∧
      definitions.build readParcel = .ok (operation, diagnostics) ∧
        operation.input.path.map (fun key => (key.name, key.mandatory, key.description)) =
          [("key", true, some "The key.")] ∧
        operation.input.query.map Parameter.name = ["page", "size"] := by
  have isDeclared : readParcel ∈ parcelDocument.declaredOperations := by
    simp [Document.declaredOperations, sortedPaths, parcelDocument, readParcel]
  have builds : parcelDocument.definitions.succeedsWith (fun definitions =>
      (definitions.build readParcel).succeedsWith fun result =>
        decide (result.1.input.path.map (fun key => (key.name, key.mandatory, key.description)) =
          [("key", true, some "The key.")] ∧
        result.1.input.query.map Parameter.name = ["page", "size"])) = true := by
    decide +kernel
  rcases Outcome.succeedsWith_iff.mp builds with ⟨definitions, defined, built⟩
  rcases Outcome.succeedsWith_iff.mp built with ⟨⟨operation, diagnostics⟩, isBuilt, tested⟩
  exact ⟨Document.mergesParameters isDeclared, definitions, operation, diagnostics, defined,
    isBuilt, of_decide_eq_true tested⟩

end ApiScaffold
