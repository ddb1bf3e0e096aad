import ApiScaffold.Proofs.Emission.RustItems

/-!
# Rust modules and their items

Every text that is rendered spells the items of its module: imports come first, then the named
structs and the structs of the operations, and then the table of routes with the handlers.
-/

namespace ApiScaffold.RustCode

variable {service : Service} {options : EmissionOptions}

/-! ## The items of a service -/

/-- Whether a module uses the names of the web: it has routes, or something is read piece by
piece. -/
def usesWeb (service : Service) (routes : Bool) : Outcome Bool :=
  if routes then .ok true else hasStream service service.operations

/-- The imports of a module. -/
def useItems (service : Service) (models routes : Bool) : Outcome (List Item) := do
  let web ← usesWeb service routes
  let uses := (if web then [webImport] else []) ++ if models then [serialisationImport] else []
  pure (if uses.isEmpty then [] else [.uses uses])

/-- The struct of a named model. -/
def modelItem (service : Service) (entry : String × Model) : Outcome Item := do
  let item ← structItem service (Naming.typeName entry.1)
    (entry.2.properties.map Field.ofProperty) entry.2.description (some entry.1)
  pure (.struct item)

/-- The named structs. -/
def modelItems (service : Service) : Outcome (List Item) := do
  let structs ← service.structs
  structs.mapM (modelItem service)

/-- The struct of some fields of an operation. -/
def fieldsItem (service : Service) (fields : Outcome (List Field)) (name documentation : String) :
    Outcome Item := do
  let fields ← fields
  let item ← structItem service name fields (some documentation) none
  pure (.struct item)

/-- The struct of the input of an operation. -/
def inputItem (service : Service) (operation : Operation) : Outcome Item :=
  fieldsItem service (service.inputFields operation) (inputTypeName operation.id)
    ("Input of " ++ operation.id ++ ".")

/-- The struct of the output of an operation. -/
def outputItem (service : Service) (operation : Operation) : Outcome Item :=
  fieldsItem service (service.outputFields operation) (outputTypeName operation.id)
    ("Output of " ++ operation.id ++ ".")

/-- The structs of an operation. -/
def operationItems (service : Service) (operation : Operation) : Outcome (List Item) := do
  let input ← inputItem service operation
  let output ← outputItem service operation
  pure [input, output]

/-- Items that may be wanted. -/
def wantedItems (wanted : Bool) (items : Outcome (List Item)) : Outcome (List Item) :=
  if wanted then items else .ok []

/-- The named structs, if they are wanted, and the structs of each operation. -/
def blockItems (service : Service) (options : EmissionOptions) : Outcome (List Item) := do
  let models ← wantedItems options.models (modelItems service)
  let operations ← service.operations.mapM (operationItems service)
  pure (models ++ operations.flatten)

/-- An operation with its method. -/
def methodOf (operation : Operation) : Outcome (Operation × Method) :=
  match Method.ofName? operation.method with
  | none => .error (.fault (.unknownKey (some operation.method)))
  | some method => .ok (operation, method)

/-- The table of routes and the handlers. -/
def routeItems (service : Service) : Outcome (List Item) := do
  let routes ← service.operations.mapM methodOf
  pure (.table routes :: service.operations.map .handler)

/-! ## Modules -/

/-- The modules of a package. -/
def packageModules (options : EmissionOptions) : List String :=
  ["pub mod models;"] ++ if options.routes then ["pub mod routes;"] else []

/-- The texts that are rendered: everything in one module, the named structs, the routes, the
files of a package (its structs, its routes, and the modules that it has), and the structs of a
single operation. -/
inductive Module where
  | sole
  | models
  | routes
  | modelsFile
  | routesFile
  | packageFile
  | input (operation : Operation)
  | output (operation : Operation)
  | both (operation : Operation)

namespace Module

/-- The text of a module. -/
def text (service : Service) (options : EmissionOptions) : Module → Outcome String
  | .sole => renderModule service options
  | .models => renderModels service
  | .routes => renderRoutes service
  | .modelsFile => importBlock service true false >>= fun head =>
      renderBlocks service options >>= fun blocks => .ok (joinBlocks (head ++ blocks))
  | .routesFile => renderRoutes service >>= fun routes => .ok (joinBlocks [webImport, routes])
  | .packageFile => .ok (joinBlocks ["\n".intercalate (packageModules options)])
  | .input operation => renderInput service operation
  | .output operation => renderOutput service operation
  | .both operation => operationBlock (renderInput service) (renderOutput service) operation

/-- The items of a module. -/
def items (service : Service) (options : EmissionOptions) : Module → Outcome (List Item)
  | .sole => do
      let head ← useItems service options.models options.routes
      let blocks ← blockItems service options
      let routes ← wantedItems options.routes (routeItems service)
      pure (head ++ blocks ++ routes)
  | .models => modelItems service
  | .routes => routeItems service
  | .modelsFile => do
      let head ← useItems service true false
      let blocks ← blockItems service options
      pure (head ++ blocks)
  | .routesFile => do
      let routes ← routeItems service
      pure (.uses [webImport] :: routes)
  | .packageFile => .ok [.uses (packageModules options)]
  | .input operation => do pure [← inputItem service operation]
  | .output operation => do pure [← outputItem service operation]
  | .both operation => operationItems service operation

/-- How a text ends after its items. -/
def ending : Module → String
  | .sole | .modelsFile | .routesFile | .packageFile => "\n"
  | .models | .routes | .input _ | .output _ | .both _ => ""

end Module

/-! ## Texts -/

/-- Texts that spell items in groups, one group a text. -/
def SpellsGroups (texts : List String) (items : List Item) : Prop :=
  ∃ groups : List (List Item), items = groups.flatten ∧
    texts = groups.map (fun group => spell (piecesOf group)) ∧ ∀ item ∈ items, item.Written

/-- A text that spells some items. -/
structure SpellsItems (text : String) (items : List Item) : Prop where
  isText : text = spell (piecesOf items)
  written : ∀ item ∈ items, item.Written

theorem SpellsGroups.nil : SpellsGroups [] [] :=
  ⟨[], rfl, rfl, fun _ member => nomatch member⟩

theorem SpellsItems.groups {text : String} {items : List Item} (spells : SpellsItems text items) :
    SpellsGroups [text] items :=
  ⟨[items], by simp, by rw [spells.isText]; rfl, spells.written⟩

theorem SpellsGroups.append {texts more : List String} {items others : List Item}
    (spells : SpellsGroups texts items) (spellsOthers : SpellsGroups more others) :
    SpellsGroups (texts ++ more) (items ++ others) := by
  obtain ⟨groups, rfl, rfl, written⟩ := spells
  obtain ⟨otherGroups, rfl, rfl, otherWritten⟩ := spellsOthers
  exact ⟨groups ++ otherGroups, List.flatten_append.symm, List.map_append.symm,
    List.forall_mem_append.mpr ⟨written, otherWritten⟩⟩

/-- Blocks are joined to a text of all their items. -/
theorem SpellsGroups.joinBlocks_eq {texts : List String} {items : List Item}
    (spells : SpellsGroups texts items) : joinBlocks texts = spell (piecesOf items) ++ "\n" := by
  obtain ⟨groups, rfl, rfl, written⟩ := spells
  apply RustCode.joinBlocks_eq
  intro group isGroup item member
  exact written item (List.mem_flatten.mpr ⟨group, isGroup, member⟩)

theorem spell_piecesOf_singleton (item : Item) :
    spell (piecesOf [item]) = "\n".intercalate (item.lines.map spell) := by
  rw [piecesOf, List.map_singleton, separated, List.intercalate_singleton, spell_separated]

/-- A struct spells its item. -/
theorem exists_spellsItems_of_renderStruct {name : String} {fields : List Field}
    {documentation owner : Option String} {text : String}
    (written : renderStruct service name fields documentation owner = .ok text) :
    ∃ item, structItem service name fields documentation owner = .ok item ∧
      SpellsItems text [.struct item] := by
  obtain ⟨item, isItem, rfl⟩ := exists_of_renderStruct written
  refine ⟨item, isItem, ?_, List.forall_mem_singleton.mpr (written_struct item)⟩
  rw [spell_piecesOf_singleton, spell_separated]
  rfl

theorem exists_of_renderModel {entry : String × Model} {text : String}
    (written : renderModel service entry.1 entry.2 = .ok text) :
    ∃ item, modelItem service entry = .ok item ∧ SpellsItems text [item] := by
  obtain ⟨item, isItem, spells⟩ := exists_spellsItems_of_renderStruct written
  exact ⟨_, Outcome.bind_eq_ok_iff.mpr ⟨item, isItem, rfl⟩, spells⟩

/-- The struct of some fields of an operation spells its item. -/
theorem exists_of_fieldsStruct {fields : Outcome (List Field)} {name documentation text : String}
    (written : (fields >>= fun fields =>
      renderStruct service name fields (some documentation) none) = .ok text) :
    ∃ item, fieldsItem service fields name documentation = .ok item ∧ SpellsItems text [item] := by
  obtain ⟨given, areFields, more⟩ := Outcome.bind_eq_ok_iff.mp written
  obtain ⟨item, isItem, spells⟩ := exists_spellsItems_of_renderStruct more
  exact ⟨_, Outcome.bind_eq_ok_iff.mpr
    ⟨given, areFields, Outcome.bind_eq_ok_iff.mpr ⟨item, isItem, rfl⟩⟩, spells⟩

/-- The struct of an input spells its item. -/
theorem exists_of_renderInput {operation : Operation} {text : String}
    (written : renderInput service operation = .ok text) :
    ∃ item, inputItem service operation = .ok item ∧ SpellsItems text [item] :=
  exists_of_fieldsStruct written

/-- The struct of an output spells its item. -/
theorem exists_of_renderOutput {operation : Operation} {text : String}
    (written : renderOutput service operation = .ok text) :
    ∃ item, outputItem service operation = .ok item ∧ SpellsItems text [item] :=
  exists_of_fieldsStruct written

/-- The structs of an operation spell their items. -/
theorem exists_of_operationBlock {operation : Operation} {text : String}
    (written : operationBlock (renderInput service) (renderOutput service) operation = .ok text) :
    ∃ items, operationItems service operation = .ok items ∧ SpellsItems text items := by
  obtain ⟨input, isInput, more⟩ := Outcome.bind_eq_ok_iff.mp written
  obtain ⟨output, isOutput, wrapped⟩ := Outcome.bind_eq_ok_iff.mp more
  cases wrapped
  obtain ⟨inputItem, isInputItem, spellsInput⟩ := exists_of_renderInput isInput
  obtain ⟨outputItem, isOutputItem, spellsOutput⟩ := exists_of_renderOutput isOutput
  refine ⟨[inputItem, outputItem], ?_, ?_, ?_⟩
  · rw [operationItems, isInputItem, isOutputItem]
    rfl
  · rw [spellsInput.isText, spellsOutput.isText,
      ← spell_piecesOf_append (List.cons_ne_nil _ _) (List.cons_ne_nil _ _)]
    rfl
  · exact List.forall_mem_append.mpr ⟨spellsInput.written, spellsOutput.written⟩

/-- Named structs in a row spell their items. -/
theorem exists_of_renderModels {text : String} (written : renderModels service = .ok text) :
    ∃ items, modelItems service = .ok items ∧ SpellsItems text items := by
  obtain ⟨structs, areStructs, more⟩ := Outcome.bind_eq_ok_iff.mp written
  obtain ⟨texts, areTexts, wrapped⟩ := Outcome.bind_eq_ok_iff.mp more
  cases wrapped
  have each : ∃ items, List.Forall₂ (fun entry item => modelItem service entry = .ok item)
      structs items ∧ texts = items.map (fun item => spell (separated "\n" item.lines)) ∧
        ∀ item ∈ items, item.Written := by
    have pairs := Outcome.mapM_eq_ok_iff.mp areTexts
    clear areStructs areTexts more written
    induction pairs with
    | nil => exact ⟨[], .nil, rfl, fun item member => nomatch member⟩
    | cons isText _ ih =>
        obtain ⟨items, areItems, rfl, written⟩ := ih
        obtain ⟨item, isItem, spells⟩ := exists_of_renderModel isText
        refine ⟨item :: items, .cons isItem areItems, ?_, ?_⟩
        · rw [spells.isText, spell_piecesOf_singleton, List.map_cons, spell_separated]
        · exact List.forall_mem_cons.mpr
            ⟨spells.written item (List.mem_singleton_self item), written⟩
  obtain ⟨items, areItems, rfl, allWritten⟩ := each
  refine ⟨items, ?_, ?_, allWritten⟩
  · rw [modelItems, areStructs]
    exact Outcome.mapM_eq_ok_iff.mpr areItems
  · rw [piecesOf, spell_separated, List.map_map]
    rfl

theorem renderBlocks_eq : renderBlocks service options =
    ((if options.models then (renderModels service).map fun text => [text] else .ok []) >>=
      fun first => service.operations.mapM
        (operationBlock (renderInput service) (renderOutput service)) >>=
          fun others => .ok (first ++ others)) := by
  rw [renderBlocks, codeBlocks]
  cases options.models <;> rfl

/-- A block that may be wanted spells its items. -/
theorem exists_of_wantedBlock {wanted : Bool} {rendered : Outcome String}
    {made : Outcome (List Item)}
    (spells : ∀ text, rendered = .ok text → ∃ items, made = .ok items ∧ SpellsItems text items)
    {blocks : List String}
    (written : (if wanted then rendered.map fun text => [text] else .ok []) = .ok blocks) :
    ∃ items, wantedItems wanted made = .ok items ∧ SpellsGroups blocks items := by
  rw [wantedItems]
  split at written
  · next isWanted =>
      rw [if_pos isWanted]
      cases isText : rendered with
      | error failure =>
          rw [isText] at written
          cases written
      | ok text =>
          rw [isText] at written
          cases written
          obtain ⟨items, areItems, spellsText⟩ := spells text isText
          exact ⟨items, areItems, spellsText.groups⟩
  · next unwanted =>
      cases written
      exact ⟨[], if_neg unwanted, .nil⟩

/-- The blocks of operations spell their items. -/
theorem exists_of_operationBlocks {operations : List Operation} {blocks : List String}
    (written : operations.mapM (operationBlock (renderInput service) (renderOutput service)) =
      .ok blocks) :
    ∃ items, operations.mapM (operationItems service) = .ok items ∧
      SpellsGroups blocks items.flatten := by
  have pairs := Outcome.mapM_eq_ok_iff.mp written
  clear written
  induction pairs with
  | nil => exact ⟨[], rfl, .nil⟩
  | cons isText _ ih =>
      obtain ⟨items, areItems, spells⟩ := ih
      obtain ⟨here, areHere, spellsHere⟩ := exists_of_operationBlock isText
      refine ⟨here :: items, ?_, spellsHere.groups.append spells⟩
      exact Outcome.mapM_eq_ok_iff.mpr (.cons areHere (Outcome.mapM_eq_ok_iff.mp areItems))

/-- The blocks of a service spell their items. -/
theorem exists_of_renderBlocks {blocks : List String}
    (written : renderBlocks service options = .ok blocks) :
    ∃ items, blockItems service options = .ok items ∧ SpellsGroups blocks items := by
  rw [renderBlocks_eq] at written
  obtain ⟨first, isFirst, more⟩ := Outcome.bind_eq_ok_iff.mp written
  obtain ⟨others, areOthers, wrapped⟩ := Outcome.bind_eq_ok_iff.mp more
  cases wrapped
  obtain ⟨models, areModels, spellsModels⟩ :=
    exists_of_wantedBlock (fun _ => exists_of_renderModels) isFirst
  obtain ⟨operations, areOperations, spellsOperations⟩ := exists_of_operationBlocks areOthers
  refine ⟨models ++ operations.flatten, ?_, spellsModels.append spellsOperations⟩
  exact Outcome.bind_eq_ok_iff.mpr
    ⟨models, areModels, Outcome.bind_eq_ok_iff.mpr ⟨operations, areOperations, rfl⟩⟩

/-! ## Imports and routes -/

theorem importBlock_eq (models routes : Bool) : importBlock service models routes =
    (usesWeb service routes >>= fun web =>
      let uses := (if web then [webImport] else []) ++ if models then [serialisationImport] else []
      .ok (if uses.isEmpty then [] else ["\n".intercalate uses])) := by
  rw [importBlock, usesWeb]
  cases routes <;> rfl

/-- Lines without pieces of the document are spelled as one item. -/
theorem spellsItems_uses {lines : List String} (written : ∃ line ∈ lines, line ≠ "") :
    SpellsItems ("\n".intercalate lines) [.uses lines] := by
  obtain ⟨line, isLine, filled⟩ := written
  refine ⟨?_, List.forall_mem_singleton.mpr ⟨[.code line], List.mem_map_of_mem isLine, ?_⟩⟩
  · rw [spell_piecesOf_singleton, Item.lines, map_spell_code]
  · rwa [spell_code]

/-- The imports spell their item. -/
theorem exists_of_importBlock {models routes : Bool} {head : List String}
    (written : importBlock service models routes = .ok head) :
    ∃ items, useItems service models routes = .ok items ∧ SpellsGroups head items := by
  rw [importBlock_eq] at written
  obtain ⟨web, isWeb, wrapped⟩ := Outcome.bind_eq_ok_iff.mp written
  rw [useItems, isWeb]
  cases wrapped
  refine ⟨_, rfl, ?_⟩
  cases web <;> cases models
  · exact .nil
  · exact (spellsItems_uses ⟨_, List.mem_cons_self, by decide⟩).groups
  · exact (spellsItems_uses ⟨_, List.mem_cons_self, by decide⟩).groups
  · exact (spellsItems_uses ⟨_, List.mem_cons_self, by decide⟩).groups

theorem spell_routePieces (route : Operation × Method) :
    spell (routePieces route) = "    cfg.route(\"" ++ route.1.uri ++ "\", " ++
      methodRoute route.2 ++ ".to(" ++ handlerName route.1 ++ "));" := by
  rw [← String.toList_inj]
  simp [spell, routePieces, Piece.text]

/-- The lines of the table of routes are those of the operations, one by one. -/
theorem exists_of_routeLines {seen : List String} {operations : List Operation}
    {lines : List String} (written : routeLines seen operations = .ok lines) :
    ∃ routes, operations.mapM methodOf = .ok routes ∧
      lines = routes.map fun route => spell (routePieces route) := by
  induction operations generalizing seen lines with
  | nil =>
      cases written
      exact ⟨[], rfl, rfl⟩
  | cons operation rest ih =>
      rw [routeLines] at written
      dsimp only at written
      split at written
      · cases written
      · split at written
        · cases written
        · next method isMethod =>
            obtain ⟨others, areOthers, wrapped⟩ := Outcome.bind_eq_ok_iff.mp written
            cases wrapped
            obtain ⟨routes, areRoutes, rfl⟩ := ih areOthers
            refine ⟨(operation, method) :: routes, ?_, ?_⟩
            · have here : methodOf operation = .ok (operation, method) := by
                rw [methodOf, isMethod]
              exact Outcome.mapM_eq_ok_iff.mpr (.cons here (Outcome.mapM_eq_ok_iff.mp areRoutes))
            · rw [List.map_cons, spell_routePieces]

theorem spell_handler (operation : Operation) :
    spell (separated "\n" (Item.handler operation).lines) = renderHandler operation := by
  have message : spell [.code "    unimplemented!(", .literal operation.id, .code ")"] =
      "    unimplemented!(\"" ++ operation.id ++ "\")" := by
    rw [← String.toList_inj]
    simp [spell, Piece.text]
  rw [spell_separated, renderHandler]
  simp only [Item.lines, List.map_cons, List.map_nil, spell_code, message]

/-- The routes spell the table and the handlers. -/
theorem exists_of_renderRoutes {text : String} (written : renderRoutes service = .ok text) :
    ∃ items, routeItems service = .ok items ∧ SpellsItems text items := by
  obtain ⟨lines, areLines, wrapped⟩ := Outcome.bind_eq_ok_iff.mp written
  cases wrapped
  obtain ⟨routes, areRoutes, rfl⟩ := exists_of_routeLines areLines
  refine ⟨.table routes :: service.operations.map .handler,
    Outcome.bind_eq_ok_iff.mpr ⟨routes, areRoutes, rfl⟩, ?_, ?_⟩
  · rw [piecesOf, spell_separated, List.map_cons, List.map_cons, spell_separated, List.map_map,
      List.map_map, Item.lines]
    simp only [List.map_append, List.map_cons, List.map_nil, spell_code, List.map_map,
      Function.comp_def, spell_handler]
  · refine List.forall_mem_cons.mpr ⟨written_table routes, fun item member => ?_⟩
    obtain ⟨operation, _, rfl⟩ := List.mem_map.mp member
    exact written_handler operation

/-! ## Texts of modules -/

theorem renderModule_eq : renderModule service options =
    (importBlock service options.models options.routes >>= fun head =>
      renderBlocks service options >>= fun blocks =>
        (if options.routes then (renderRoutes service).map fun routes => [routes] else .ok []) >>=
          fun routes => .ok (joinBlocks (head ++ blocks ++ routes))) := by
  rw [renderModule]
  cases options.routes with
  | true => cases renderRoutes service <;> rfl
  | false => rfl

/-- The text of a module spells the items of the module. -/
theorem exists_of_text {module : Module} {text : String}
    (written : module.text service options = .ok text) :
    ∃ items, module.items service options = .ok items ∧
      text = spell (piecesOf items) ++ module.ending := by
  have whole : ∀ {text items}, SpellsItems text items → text = spell (piecesOf items) ++ "" :=
    fun spells => by rw [spells.isText, String.append_empty]
  cases module with
  | sole =>
      obtain ⟨head, isHead, more⟩ := Outcome.bind_eq_ok_iff.mp (renderModule_eq.symm.trans written)
      obtain ⟨blocks, areBlocks, rest⟩ := Outcome.bind_eq_ok_iff.mp more
      obtain ⟨routes, areRoutes, wrapped⟩ := Outcome.bind_eq_ok_iff.mp rest
      cases wrapped
      obtain ⟨uses, areUses, spellsHead⟩ := exists_of_importBlock isHead
      obtain ⟨structs, areStructs, spellsBlocks⟩ := exists_of_renderBlocks areBlocks
      obtain ⟨table, isTable, spellsRoutes⟩ :=
        exists_of_wantedBlock (fun _ => exists_of_renderRoutes) areRoutes
      refine ⟨uses ++ structs ++ table, ?_,
        ((spellsHead.append spellsBlocks).append spellsRoutes).joinBlocks_eq⟩
      exact Outcome.bind_eq_ok_iff.mpr ⟨uses, areUses, Outcome.bind_eq_ok_iff.mpr
        ⟨structs, areStructs, Outcome.bind_eq_ok_iff.mpr ⟨table, isTable, rfl⟩⟩⟩
  | models =>
      obtain ⟨items, areItems, spells⟩ := exists_of_renderModels written
      exact ⟨items, areItems, whole spells⟩
  | routes =>
      obtain ⟨items, areItems, spells⟩ := exists_of_renderRoutes written
      exact ⟨items, areItems, whole spells⟩
  | modelsFile =>
      obtain ⟨head, isHead, more⟩ := Outcome.bind_eq_ok_iff.mp written
      obtain ⟨blocks, areBlocks, wrapped⟩ := Outcome.bind_eq_ok_iff.mp more
      cases wrapped
      obtain ⟨uses, areUses, spellsHead⟩ := exists_of_importBlock isHead
      obtain ⟨structs, areStructs, spellsBlocks⟩ := exists_of_renderBlocks areBlocks
      refine ⟨uses ++ structs, ?_, (spellsHead.append spellsBlocks).joinBlocks_eq⟩
      exact Outcome.bind_eq_ok_iff.mpr
        ⟨uses, areUses, Outcome.bind_eq_ok_iff.mpr ⟨structs, areStructs, rfl⟩⟩
  | routesFile =>
      obtain ⟨routes, areRoutes, wrapped⟩ := Outcome.bind_eq_ok_iff.mp written
      cases wrapped
      obtain ⟨items, areItems, spells⟩ := exists_of_renderRoutes areRoutes
      have filled : ∃ line ∈ [webImport], line ≠ "" :=
        ⟨webImport, List.mem_cons_self, by decide⟩
      have spellsHead : SpellsItems webImport [.uses [webImport]] := by
        simpa only [String.intercalate_singleton] using spellsItems_uses filled
      refine ⟨.uses [webImport] :: items, ?_,
        (spellsHead.groups.append spells.groups).joinBlocks_eq⟩
      exact Outcome.bind_eq_ok_iff.mpr ⟨items, areItems, rfl⟩
  | packageFile =>
      cases written
      have spells : SpellsItems ("\n".intercalate (packageModules options))
          [.uses (packageModules options)] :=
        spellsItems_uses ⟨_, List.mem_cons_self, by decide⟩
      exact ⟨_, rfl, spells.groups.joinBlocks_eq⟩
  | input operation =>
      obtain ⟨item, isItem, spells⟩ := exists_of_renderInput written
      exact ⟨[item], Outcome.bind_eq_ok_iff.mpr ⟨item, isItem, rfl⟩, whole spells⟩
  | output operation =>
      obtain ⟨item, isItem, spells⟩ := exists_of_renderOutput written
      exact ⟨[item], Outcome.bind_eq_ok_iff.mpr ⟨item, isItem, rfl⟩, whole spells⟩
  | both operation =>
      obtain ⟨items, areItems, spells⟩ := exists_of_operationBlock written
      exact ⟨items, areItems, whole spells⟩

theorem text_packageFile : Module.packageFile.text service options =
    .ok (if options.routes then "pub mod models;\npub mod routes;\n" else "pub mod models;\n") := by
  rw [Module.text, packageModules]
  cases options.routes with
  | true => exact congrArg Except.ok (by decide +kernel)
  | false => exact congrArg Except.ok (by decide +kernel)

/-- The files of a package are texts of modules. -/
theorem renderFiles_eq : renderFiles service options =
    (Module.modelsFile.text service options >>= fun models =>
      if options.routes then Module.routesFile.text service options >>= fun routes =>
        Module.packageFile.text service options >>= fun package =>
          .ok [("models.rs", models), ("routes.rs", routes), ("mod.rs", package)]
      else Module.packageFile.text service options >>= fun package =>
        .ok [("models.rs", models), ("mod.rs", package)]) := by
  rw [text_packageFile, renderFiles, Module.text, Module.text]
  cases importBlock service true false with
  | error failure => rfl
  | ok head =>
      cases renderBlocks service options with
      | error failure => rfl
      | ok blocks =>
          cases options.routes with
          | false => rfl
          | true => cases renderRoutes service <;> rfl

/-- Every file of a package is the text of a module. -/
theorem exists_module_of_mem_renderFiles {files : List (String × String)}
    (rendered : renderFiles service options = .ok files) {file : String × String}
    (member : file ∈ files) : ∃ module, Module.text service options module = .ok file.2 := by
  rw [renderFiles_eq] at rendered
  obtain ⟨models, areModels, more⟩ := Outcome.bind_eq_ok_iff.mp rendered
  split at more
  · obtain ⟨routes, areRoutes, rest⟩ := Outcome.bind_eq_ok_iff.mp more
    obtain ⟨package, isPackage, wrapped⟩ := Outcome.bind_eq_ok_iff.mp rest
    cases wrapped
    simp only [List.mem_cons, List.not_mem_nil, or_false] at member
    rcases member with rfl | rfl | rfl
    · exact ⟨_, areModels⟩
    · exact ⟨_, areRoutes⟩
    · exact ⟨_, isPackage⟩
  · obtain ⟨package, isPackage, wrapped⟩ := Outcome.bind_eq_ok_iff.mp more
    cases wrapped
    simp only [List.mem_cons, List.not_mem_nil, or_false] at member
    rcases member with rfl | rfl
    · exact ⟨_, areModels⟩
    · exact ⟨_, isPackage⟩

end ApiScaffold.RustCode
