import ApiScaffold.Proofs.Emission.CapturedNames
import ApiScaffold.Proofs.Emission.RustLiterals

/-!
# Texts between quotes

A Rust module puts texts of the document between quotes: the names of fields that are renamed, the
addresses of the routes, and the identifiers of the operations.  They are written as they are, so
each of them is read back exactly if it has no special characters, and a field has the name of its
property exactly if it is not renamed or the name has no special characters.
-/

namespace ApiScaffold.RustCode

variable {service : Service} {options : EmissionOptions} {module : Module} {items : List Item}

/-! ## Texts of items -/

/-- The texts of an item that stand between quotes. -/
def Item.quoted : Item → List String
  | .uses _ => []
  | .struct item => item.fields.filterMap FieldItem.rename
  | .table routes => routes.map fun route => route.1.uri
  | .handler operation => [operation.id]

theorem literals_code (text : String) : literals [.code text] = [] :=
  rfl

theorem flatMap_literals_code (lines : List String) :
    (lines.map fun line => [Piece.code line]).flatMap literals = [] := by
  simp [literals_code]

theorem FieldItem.flatMap_literals_lines (item : FieldItem) :
    item.lines.flatMap literals = item.rename.toList := by
  rw [lines, List.flatMap_append, List.flatMap_append, flatMap_literals_code]
  cases item.rename <;> rfl

theorem StructItem.flatMap_literals_lines (item : StructItem) :
    item.lines.flatMap literals = item.fields.filterMap FieldItem.rename := by
  have ofFields : (item.fields.flatMap FieldItem.lines).flatMap literals =
      item.fields.filterMap FieldItem.rename := by
    rw [List.flatMap_assoc]
    simp only [FieldItem.flatMap_literals_lines]
    exact (List.filterMap_eq_flatMap_toList _ _).symm
  rw [lines, List.flatMap_append, flatMap_literals_code, List.nil_append]
  split
  · next noFields =>
      rw [List.isEmpty_iff.mp noFields]
      rfl
  · rw [List.flatMap_append, List.flatMap_append, ofFields]
    simp [literals_code]

/-- The texts between quotes are those of the lines. -/
theorem Item.flatMap_literals_lines (item : Item) : item.lines.flatMap literals = item.quoted := by
  cases item with
  | uses names => exact flatMap_literals_code names
  | struct item => exact item.flatMap_literals_lines
  | table routes =>
      rw [lines, List.flatMap_append, List.flatMap_append, List.flatMap_map]
      have ofRoute : ∀ route, literals (routePieces route) = [route.1.uri] := fun _ => rfl
      simp only [ofRoute, ← List.map_eq_flatMap]
      simp [literals_code, quoted]
  | handler operation => rfl

/-- The texts between quotes of a module are those of its items. -/
theorem literals_piecesOf (items : List Item) :
    literals (piecesOf items) = items.flatMap Item.quoted := by
  rw [piecesOf, literals_separated, List.flatMap_map]
  congr 1
  funext item
  rw [literals_separated, item.flatMap_literals_lines]

/-! ## Fields -/

/-- A name that no identifier of a field stands for. -/
def Renamed (name : String) : Prop :=
  Naming.withoutRawMark (Naming.rustName name) ≠ name

instance (name : String) : Decidable (Renamed name) :=
  inferInstanceAs (Decidable (_ ≠ _))

/-- The name that a field has when its struct is serialised. -/
def FieldItem.wireName (item : FieldItem) : Option String :=
  match item.rename with
  | some name => literalValue name
  | none => some (Naming.withoutRawMark item.identifier)

theorem renameOf_none (field : Field) : renameOf none field = none :=
  rfl

theorem renameOf_some (owner : String) (field : Field) :
    renameOf (some owner) field = if Renamed field.name then some field.name else none := by
  simp only [renameOf, Option.isSome_some, Bool.true_and]
  exact if_congr bne_iff_ne rfl rfl

/-- A field is written with its identifier, and with its name if that is to be given. -/
theorem fields_of_fieldItem {owner : Option String} {field : Field} {item : FieldItem}
    (made : fieldItem service owner field = .ok item) :
    item.rename = renameOf owner field ∧ item.identifier = Naming.rustName field.name := by
  obtain ⟨type, _, more⟩ := Outcome.bind_eq_ok_iff.mp made
  cases owner with
  | none =>
      rw [← Except.ok.inj more]
      simp only [and_self]
  | some owner =>
      obtain ⟨boxed, _, wrapped⟩ := Outcome.bind_eq_ok_iff.mp more
      rw [← Except.ok.inj wrapped]
      simp only [and_self]

/-- The fields of a struct are written one by one. -/
theorem forall₂_of_structItem {name : String} {fields : List Field}
    {documentation owner : Option String} {struct : StructItem}
    (made : structItem service name fields documentation owner = .ok struct) :
    List.Forall₂ (fun field item => fieldItem service owner field = .ok item)
      fields struct.fields := by
  obtain ⟨items, areItems, wrapped⟩ := Outcome.bind_eq_ok_iff.mp made
  cases wrapped
  exact Outcome.mapM_eq_ok_iff.mp areItems

/-- A field is serialised under its name exactly if it is not renamed or its name has no special
characters. -/
theorem wireName_eq_iff {owner : String} {field : Field} {item : FieldItem}
    (made : fieldItem service (some owner) field = .ok item) :
    item.wireName = some field.name ↔ (Renamed field.name → IsPlain field.name) := by
  obtain ⟨isRename, isIdentifier⟩ := fields_of_fieldItem made
  rw [renameOf_some] at isRename
  by_cases renamed : Renamed field.name
  · rw [if_pos renamed] at isRename
    rw [FieldItem.wireName, isRename, literalValue_eq_iff, forall_prop_of_true renamed]
  · -- Without a rename the name is that of the identifier, which is the name of the field.
    rw [if_neg renamed] at isRename
    rw [FieldItem.wireName, isRename, isIdentifier]
    exact iff_of_true (congrArg some (not_not.mp renamed)) fun isRenamed => absurd isRenamed renamed

/-- A struct quotes the names of the fields that are renamed. -/
theorem mem_quoted_of_structItem_iff {name : String} {fields : List Field}
    {documentation owner : Option String} {struct : StructItem}
    (made : structItem service name fields documentation owner = .ok struct) (content : String) :
    content ∈ (Item.struct struct).quoted ↔
      ∃ field ∈ fields, renameOf owner field = some content := by
  rw [Item.quoted, List.mem_filterMap]
  have pairs := forall₂_of_structItem made
  constructor
  · rintro ⟨item, isItem, isRename⟩
    obtain ⟨field, isField, here⟩ := Entries.exists_left_of_forall₂ pairs isItem
    exact ⟨field, isField, (fields_of_fieldItem here).1.symm.trans isRename⟩
  · rintro ⟨field, isField, isRename⟩
    obtain ⟨item, isItem, here⟩ := Entries.exists_left_of_forall₂ pairs.flip isField
    exact ⟨item, isItem, (fields_of_fieldItem here).1.trans isRename⟩

/-! ## Texts of modules -/

/-- A text of the document that a module puts between quotes. -/
def Module.Quotes (service : Service) (options : EmissionOptions) (module : Module)
    (content : String) : Prop :=
  (module.hasStructs options = true ∧ ∃ entry ∈ service.models, entry.2.isStruct = true ∧
    ∃ property ∈ entry.2.properties, Renamed property.1 ∧ property.1 = content) ∨
  (module.hasRoutes options = true ∧ ∃ operation ∈ service.operations,
    operation.uri = content ∨ operation.id = content)

/-- The struct of a named model quotes the names of the properties that are renamed. -/
theorem mem_quoted_of_modelItem_iff {entry : String × Model} {item : Item}
    (made : modelItem service entry = .ok item) (content : String) : content ∈ item.quoted ↔
      ∃ property ∈ entry.2.properties, Renamed property.1 ∧ property.1 = content := by
  obtain ⟨struct, rfl, isMade⟩ := exists_struct_of_modelItem made
  rw [mem_quoted_of_structItem_iff isMade]
  simp [renameOf_some, Field.ofProperty]

/-- The structs of inputs and outputs have no fields that are renamed. -/
theorem notMem_quoted_of_fieldsItem {fields : Outcome (List Field)} {name documentation : String}
    {item : Item} (made : fieldsItem service fields name documentation = .ok item)
    (content : String) : content ∉ item.quoted := by
  obtain ⟨struct, rfl, given, _, isMade⟩ := exists_struct_of_fieldsItem made
  rw [mem_quoted_of_structItem_iff isMade]
  simp [renameOf_none]

theorem fst_of_methodOf {operation : Operation} {route : Operation × Method}
    (made : methodOf operation = .ok route) : route.1 = operation := by
  rw [methodOf] at made
  split at made
  · cases made
  · cases made
    rfl

/-- The table of routes quotes the addresses of the operations. -/
theorem mem_quoted_table_iff {routes : List (Operation × Method)}
    (made : service.operations.mapM methodOf = .ok routes) (content : String) :
    content ∈ (Item.table routes).quoted ↔
      ∃ operation ∈ service.operations, operation.uri = content := by
  rw [Item.quoted, List.mem_map]
  constructor
  · rintro ⟨route, isRoute, isContent⟩
    obtain ⟨operation, isOperation, here⟩ := (Outcome.mem_iff_of_mapM_eq_ok made).mp isRoute
    exact ⟨operation, isOperation, fst_of_methodOf here ▸ isContent⟩
  · rintro ⟨operation, isOperation, isContent⟩
    obtain ⟨route, isRoute, here⟩ := Outcome.exists_of_mapM_eq_ok made isOperation
    exact ⟨route, isRoute, fst_of_methodOf here ▸ isContent⟩

/-- A module puts exactly these texts of the document between quotes. -/
theorem Module.mem_literals_iff {document : Document} (built : document.service = .ok service)
    (made : module.items service options = .ok items) (content : String) :
    content ∈ literals (piecesOf items) ↔ module.Quotes service options content := by
  rw [literals_piecesOf, List.mem_flatMap]
  constructor
  · rintro ⟨item, isItem, isQuoted⟩
    have noUse : item.isUse = false := by
      cases item with
      | uses names => cases isQuoted
      | struct _ | table _ | handler _ => rfl
    rcases (Module.mem_items_iff built made noUse).mp isItem with
      ⟨hasStructs, entry, inModels, isStruct, isModel⟩ | ⟨operation, ⟨_, isInput⟩ | ⟨_, isOutput⟩⟩ |
        ⟨hasRoutes, ⟨routes, areRoutes, rfl⟩ | ⟨operation, isOperation, rfl⟩⟩
    · exact Or.inl ⟨hasStructs, entry, inModels, isStruct,
        (mem_quoted_of_modelItem_iff isModel content).mp isQuoted⟩
    · exact absurd isQuoted (notMem_quoted_of_fieldsItem isInput content)
    · exact absurd isQuoted (notMem_quoted_of_fieldsItem isOutput content)
    · obtain ⟨operation, isOperation, isContent⟩ :=
        (mem_quoted_table_iff areRoutes content).mp isQuoted
      exact Or.inr ⟨hasRoutes, operation, isOperation, Or.inl isContent⟩
    · exact Or.inr ⟨hasRoutes, operation, isOperation,
        Or.inr (List.mem_singleton.mp isQuoted).symm⟩
  · rintro (⟨hasStructs, entry, inModels, isStruct, isProperty⟩ |
      ⟨hasRoutes, operation, isOperation, isContent | isContent⟩)
    · obtain ⟨all, areAll⟩ := Module.exists_modelItems made hasStructs
      obtain ⟨item, isItem⟩ := exists_modelItem built areAll inModels isStruct
      obtain ⟨struct, rfl, _⟩ := exists_struct_of_modelItem isItem
      exact ⟨_, (Module.mem_items_iff built made rfl).mpr
        (Or.inl ⟨hasStructs, entry, inModels, isStruct, isItem⟩),
        (mem_quoted_of_modelItem_iff isItem content).mpr isProperty⟩
    · obtain ⟨routes, areRoutes⟩ := Module.exists_routes made hasRoutes
      exact ⟨.table routes, (Module.mem_items_iff built made rfl).mpr
        (Or.inr (Or.inr ⟨hasRoutes, Or.inl ⟨routes, areRoutes, rfl⟩⟩)),
        (mem_quoted_table_iff areRoutes content).mpr ⟨operation, isOperation, isContent⟩⟩
    · exact ⟨.handler operation, (Module.mem_items_iff built made rfl).mpr
        (Or.inr (Or.inr ⟨hasRoutes, Or.inr ⟨operation, isOperation, rfl⟩⟩)),
        List.mem_singleton.mpr isContent.symm⟩

/-- The text of pieces with a literal among them. -/
theorem toList_spell_literal (before after : List Piece) (content ending : String) :
    (spell (before ++ .literal content :: after) ++ ending).toList =
      (spell before).toList ++
        '"' :: (content.toList ++ '"' :: (spell after ++ ending).toList) := by
  rw [← List.singleton_append, spell_append, spell_append]
  simp [spell, Piece.text]

theorem exists_split_of_mem_literals {content : String} {pieces : List Piece}
    (member : content ∈ literals pieces) :
    ∃ before after, pieces = before ++ .literal content :: after := by
  obtain ⟨piece, isPiece, isContent⟩ := List.mem_filterMap.mp member
  cases piece with
  | code text => cases isContent
  | literal other =>
      cases isContent
      exact List.append_of_mem isPiece

/-- How a module puts texts of the document between quotes.  They are the renamed properties of
named structs, the addresses of the routes and the identifiers of the operations; each of them is
written as it is, and is read back exactly if it has no special characters; and so is a property
serialised under its name exactly if it is not renamed or its name has no special characters. -/
structure Module.QuotesExactly (service : Service) (options : EmissionOptions) (module : Module)
    (items : List Item) (text : String) : Prop where
  quoted : ∀ content, content ∈ literals (piecesOf items) ↔ module.Quotes service options content
  written : ∀ before content after, piecesOf items = before ++ .literal content :: after →
    text.toList = (spell before).toList ++
      '"' :: (content.toList ++ '"' :: (spell after ++ module.ending).toList)
  readBack : ∀ before content after, piecesOf items = before ++ .literal content :: after →
    (readLiteral (content.toList ++ '"' :: (spell after ++ module.ending).toList) =
      some (content.toList, (spell after ++ module.ending).toList) ↔ IsPlain content)
  wireNames : module.hasStructs options = true → ∀ entry ∈ service.models,
    entry.2.isStruct = true → ∃ struct, .struct struct ∈ items ∧
      struct.name = Naming.typeName entry.1 ∧
        List.Forall₂ (fun property item => item.wireName = some property.1 ↔
          (Renamed property.1 → IsPlain property.1)) entry.2.properties struct.fields

section Built

variable {document : Document} (built : document.service = .ok service)
include built

/-- The properties of a named struct are serialised under their names exactly if they have no
special characters or are not renamed. -/
theorem exists_wireNames (made : module.items service options = .ok items)
    (hasStructs : module.hasStructs options = true) {entry : String × Model}
    (inModels : entry ∈ service.models) (isStruct : entry.2.isStruct = true) :
    ∃ struct, .struct struct ∈ items ∧ struct.name = Naming.typeName entry.1 ∧
      List.Forall₂ (fun property item => item.wireName = some property.1 ↔
        (Renamed property.1 → IsPlain property.1)) entry.2.properties struct.fields := by
  obtain ⟨all, areAll⟩ := Module.exists_modelItems made hasStructs
  obtain ⟨item, isItem⟩ := exists_modelItem built areAll inModels isStruct
  obtain ⟨struct, rfl, isMade⟩ := exists_struct_of_modelItem isItem
  refine ⟨struct, (Module.mem_items_iff built made rfl).mpr
    (Or.inl ⟨hasStructs, entry, inModels, isStruct, isItem⟩), name_of_structItem isMade, ?_⟩
  have pairs := List.forall₂_map_left_iff.mp (forall₂_of_structItem isMade)
  exact pairs.imp fun property item here => wireName_eq_iff here

/-- Every text of a module quotes the texts of the document in this way. -/
theorem Module.quotesExactly_of_items (made : module.items service options = .ok items) :
    module.QuotesExactly service options items (spell (piecesOf items) ++ module.ending) where
  quoted := Module.mem_literals_iff built made
  written before content after split := by
    rw [split, toList_spell_literal]
  readBack _ content _ _ := readLiteral_eq_iff content.toList _
  wireNames hasStructs _ inModels isStruct :=
    exists_wireNames built made hasStructs inModels isStruct

end Built

/-- Texts of the document are put between quotes as they are.  Such a literal ends where it is
closed and denotes the text exactly if the text has no quote, no backslash and no return; and
only then has a field that is renamed the name of its property.  The files of a package are texts
of modules too. -/
theorem literals_denote {document : Document} (built : document.service = .ok service)
    (options : EmissionOptions) :
    (∀ module text, Module.text service options module = .ok text →
      ∃ items, module.items service options = .ok items ∧
        text = spell (piecesOf items) ++ module.ending ∧
        module.QuotesExactly service options items text) ∧
    ∀ files, renderFiles service options = .ok files → ∀ file ∈ files,
      ∃ module, Module.text service options module = .ok file.2 := by
  constructor
  · intro module text rendered
    obtain ⟨items, areItems, rfl⟩ := exists_of_text rendered
    exact ⟨items, areItems, rfl, Module.quotesExactly_of_items built areItems⟩
  · exact fun files rendered file member => exists_module_of_mem_renderFiles rendered member

/-- The module of a post office has a text, whose literals are known. -/
theorem literals_denote_of_copyingOffice :
    ∃ service text items, copyingOffice.service = .ok service ∧
      renderModule service ⟨true, true, true⟩ = .ok text ∧
      Module.sole.QuotesExactly service ⟨true, true, true⟩ items text := by
  have passes : copyingOffice.draft.succeedsWith (fun draft => draft.passes (fun _ => 0) &&
      (decide (draft.models.length ≤ 1) &&
        (renderModule (draft.ordered copyingOffice (draft.models.keys.map some))
          ⟨true, true, true⟩).succeedsWith fun _ => true)) = true := by
    decide +kernel
  obtain ⟨service, built, succeeds⟩ := Document.exists_service_of_few
    (fun service => (renderModule service ⟨true, true, true⟩).succeedsWith fun _ => true) passes
  obtain ⟨text, rendered, _⟩ := Outcome.succeedsWith_iff.mp succeeds
  obtain ⟨items, _, _, quotes⟩ :=
    (literals_denote built ⟨true, true, true⟩).1 .sole text rendered
  exact ⟨service, text, items, built, rendered, quotes⟩

/-- Whether a service has a text and a property that is renamed to a text with special
characters. -/
def hasSpecialProperty (service : Service) : Bool :=
  (renderModule service ⟨true, true, true⟩).succeedsWith (fun _ => true) &&
    service.models.any fun entry => entry.2.isStruct &&
      entry.2.properties.any fun property => decide (Renamed property.1 ∧ ¬ IsPlain property.1)

/-- A property can have a name with quotes, and then its literal is not read back. -/
theorem exists_literal_not_read_back :
    ∃ service text items before content after,
      (structDocument "Widget" "say \"hi\"").service = .ok service ∧
      renderModule service ⟨true, true, true⟩ = .ok text ∧
      Module.sole.items service ⟨true, true, true⟩ = .ok items ∧
      piecesOf items = before ++ .literal content :: after ∧
      readLiteral (content.toList ++ '"' :: (spell after ++ "\n").toList) ≠
        some (content.toList, (spell after ++ "\n").toList) := by
  have passes : (structDocument "Widget" "say \"hi\"").draft.succeedsWith (fun draft =>
      draft.passes (fun _ => 0) && (decide (draft.models.length ≤ 1) && hasSpecialProperty
        (draft.ordered (structDocument "Widget" "say \"hi\"")
          (draft.models.keys.map some)))) = true := by
    decide +kernel
  obtain ⟨service, built, tested⟩ := Document.exists_service_of_few hasSpecialProperty passes
  obtain ⟨succeeds, hasProperty⟩ := Bool.and_eq_true_iff.mp tested
  obtain ⟨text, rendered, _⟩ := Outcome.succeedsWith_iff.mp succeeds
  obtain ⟨items, areItems, _⟩ := @exists_of_text _ _ .sole _ rendered
  simp only [List.any_eq_true, Bool.and_eq_true, decide_eq_true_eq] at hasProperty
  obtain ⟨entry, inModels, isStruct, property, isProperty, renamed, special⟩ := hasProperty
  have isQuoted : property.1 ∈ literals (piecesOf items) :=
    (Module.mem_literals_iff built areItems property.1).mpr
      (Or.inl ⟨rfl, entry, inModels, isStruct, property, isProperty, renamed, rfl⟩)
  obtain ⟨before, after, split⟩ := exists_split_of_mem_literals isQuoted
  refine ⟨service, text, items, before, property.1, after, built, rendered, areItems, split, ?_⟩
  exact mt (readLiteral_eq_iff _ _).mp special

end ApiScaffold.RustCode
