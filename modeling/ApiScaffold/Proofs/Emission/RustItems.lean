import ApiScaffold.Proofs.Emission.Boxing

/-!
# Rust texts as items

A Rust text is a row of items: imports, structs, the table of routes, and handlers.  An item is
made of lines, and a line of pieces: code, and the texts of the document that stand between
quotes.  Every text that is rendered spells the items of its module.
-/

namespace ApiScaffold.RustCode

variable {service : Service} {options : EmissionOptions}

/-! ## Pieces -/

/-- A piece of a line: code, or a text of the document between quotes. -/
inductive Piece where
  | code (text : String)
  | literal (content : String)

/-- The text of a piece. -/
def Piece.text : Piece → String
  | .code text => text
  | .literal content => "\"" ++ content ++ "\""

/-- The text of some pieces. -/
def spell (pieces : List Piece) : String :=
  String.join (pieces.map Piece.text)

/-- The texts that stand between quotes. -/
def literals (pieces : List Piece) : List String :=
  pieces.filterMap fun piece =>
    match piece with
    | .code _ => none
    | .literal content => some content

/-- Parts with a separator between them. -/
def separated (separator : String) (parts : List (List Piece)) : List Piece :=
  [.code separator].intercalate parts

theorem spell_append (first second : List Piece) :
    spell (first ++ second) = spell first ++ spell second := by
  rw [spell, List.map_append, String.join_append]
  rfl

theorem literals_append (first second : List Piece) :
    literals (first ++ second) = literals first ++ literals second :=
  List.filterMap_append

theorem spell_code (text : String) : spell [.code text] = text := by
  simp [spell, Piece.text]

theorem spell_separated (separator : String) (parts : List (List Piece)) :
    spell (separated separator parts) = separator.intercalate (parts.map spell) := by
  induction parts with
  | nil => rfl
  | cons part rest ih =>
      cases rest with
      | nil => rw [separated, List.intercalate_singleton, List.map_singleton,
          String.intercalate_singleton]
      | cons next others =>
          rw [separated, List.intercalate_cons_cons, spell_append, spell_append, spell_code,
            List.map_cons, List.map_cons, String.intercalate_cons_cons, ← List.map_cons, ← ih,
            separated]

theorem literals_separated (separator : String) (parts : List (List Piece)) :
    literals (separated separator parts) = parts.flatMap literals := by
  induction parts with
  | nil => rfl
  | cons part rest ih =>
      cases rest with
      | nil => simp [separated]
      | cons next others =>
          rw [separated, List.intercalate_cons_cons, literals_append, literals_append,
            List.flatMap_cons, ← ih, separated]
          simp [literals]

/-! ## Structs -/

/-- A field of a struct as it is written. -/
structure FieldItem where
  comment : List String
  /-- The name in the document, if it is given. -/
  rename : Option String
  identifier : String
  type : String

/-- The lines of a field. -/
def FieldItem.lines (item : FieldItem) : List (List Piece) :=
  item.comment.map (fun line => [.code line]) ++
    item.rename.toList.map (fun name =>
      [.code "    #[serde(rename = ", .literal name, .code ")]"]) ++
    [[.code ("    pub " ++ item.identifier ++ ": " ++ item.type ++ ",")]]

/-- A struct as it is written. -/
structure StructItem where
  head : List String
  name : String
  fields : List FieldItem

/-- The lines of a struct. -/
def StructItem.lines (item : StructItem) : List (List Piece) :=
  item.head.map (fun line => [.code line]) ++
    if item.fields.isEmpty then [[.code ("pub struct " ++ item.name ++ " \x7b\x7d")]]
    else [[.code ("pub struct " ++ item.name ++ " \x7b")]] ++ item.fields.flatMap FieldItem.lines ++
      [[.code "\x7d"]]

/-- The name of a field in the document, if it differs from its identifier in a struct that can
be serialised. -/
def renameOf (owner : Option String) (field : Field) : Option String :=
  if owner.isSome && Naming.withoutRawMark (Naming.rustName field.name) != field.name then
    some field.name
  else none

/-- A field of a struct. -/
def fieldItem (service : Service) (owner : Option String) (field : Field) : Outcome FieldItem := do
  let type ← renderType service field.model
  let boxed ←
    match owner with
    | none => pure false
    | some owner => isRecursive service owner field.model
  pure
    { comment := fieldComment field.description
      rename := renameOf owner field
      identifier := Naming.rustName field.name
      type := if boxed then "Option<Box<" ++ type ++ ">>" else type }

/-- A struct with some fields. -/
def structItem (service : Service) (name : String) (fields : List Field)
    (documentation owner : Option String) : Outcome StructItem := do
  let items ← fields.mapM (fieldItem service owner)
  pure ⟨documentationLines documentation ++ if owner.isSome then [derives] else [], name, items⟩

theorem map_spell_code (lines : List String) :
    (lines.map fun line => [Piece.code line]).map spell = lines := by
  rw [List.map_map]
  exact (List.map_congr_left fun line _ => spell_code line).trans (List.map_id lines)

theorem spell_rename (name : String) :
    spell [.code "    #[serde(rename = ", .literal name, .code ")]"] =
      "    #[serde(rename = \"" ++ name ++ "\")]" := by
  rw [← String.toList_inj]
  simp [spell, Piece.text]

theorem FieldItem.map_spell_lines (item : FieldItem) :
    item.lines.map spell = item.comment ++
      item.rename.toList.map (fun name => "    #[serde(rename = \"" ++ name ++ "\")]") ++
        ["    pub " ++ item.identifier ++ ": " ++ item.type ++ ","] := by
  simp only [lines, List.map_append, List.map_map, Function.comp_def, spell_rename, spell_code,
    List.map_id', List.map_cons, List.map_nil]

theorem toList_renameOf (owner : Option String) (field : Field) :
    (renameOf owner field).toList.map (fun name => "    #[serde(rename = \"" ++ name ++ "\")]") =
      if owner.isSome && Naming.withoutRawMark (Naming.rustName field.name) != field.name then
        ["    #[serde(rename = \"" ++ field.name ++ "\")]"]
      else [] := by
  unfold renameOf
  split <;> rfl

/-- The lines of a field are spelled. -/
theorem exists_of_fieldLines {owner : Option String} {field : Field} {lines : List String}
    (written : fieldLines service owner (Naming.rustName field.name) field = .ok lines) :
    ∃ item, fieldItem service owner field = .ok item ∧ lines = item.lines.map spell := by
  obtain ⟨type, spelled, more⟩ := Outcome.bind_eq_ok_iff.mp written
  rw [fieldItem, spelled]
  cases owner with
  | none =>
      cases more
      refine ⟨_, rfl, ?_⟩
      rw [FieldItem.map_spell_lines, toList_renameOf]
  | some owner =>
      obtain ⟨boxed, searched, wrapped⟩ := Outcome.bind_eq_ok_iff.mp more
      cases wrapped
      refine ⟨_, Outcome.bind_eq_ok_iff.mpr
        ⟨type, rfl, Outcome.bind_eq_ok_iff.mpr ⟨boxed, searched, rfl⟩⟩, ?_⟩
      rw [FieldItem.map_spell_lines, toList_renameOf]

/-- The lines of the fields of a struct are spelled. -/
theorem exists_of_allFieldLines {owner : Option String} {name : String} {fields : List Field}
    {lines : List String} (written : allFieldLines service owner name [] fields = .ok lines) :
    ∃ items, fields.mapM (fieldItem service owner) = .ok items ∧
      lines = (items.flatMap FieldItem.lines).map spell := by
  obtain ⟨-, -, blocks, each, rfl⟩ := allFieldLines_eq_ok_iff.mp written
  clear written
  induction each with
  | nil => exact ⟨[], rfl, rfl⟩
  | cons isBlock _ ih =>
      obtain ⟨item, isItem, rfl⟩ := exists_of_fieldLines isBlock
      obtain ⟨items, areItems, isRest⟩ := ih
      refine ⟨item :: items, ?_, ?_⟩
      · rw [List.mapM_cons, isItem, areItems]
        rfl
      · rw [List.flatten_cons, isRest, List.flatMap_cons, List.map_append]

/-- A struct is spelled. -/
theorem exists_of_renderStruct {name : String} {fields : List Field}
    {documentation owner : Option String} {text : String}
    (written : renderStruct service name fields documentation owner = .ok text) :
    ∃ item, structItem service name fields documentation owner = .ok item ∧
      text = spell (separated "\n" item.lines) := by
  rw [renderStruct] at written
  split at written
  · next noFields =>
      cases written
      rw [List.isEmpty_iff.mp noFields]
      refine ⟨_, rfl, ?_⟩
      rw [spell_separated, StructItem.lines, List.map_append, map_spell_code]
      simp [spell_code]
  · next hasFields =>
      obtain ⟨lines, areLines, wrapped⟩ := Outcome.bind_eq_ok_iff.mp written
      cases wrapped
      obtain ⟨items, areItems, rfl⟩ := exists_of_allFieldLines areLines
      refine ⟨_, Outcome.bind_eq_ok_iff.mpr ⟨items, areItems, rfl⟩, ?_⟩
      have hasItems : items.isEmpty = false := by
        have lengths := (Outcome.mapM_eq_ok_iff.mp areItems).length_eq
        cases items with
        | nil => exact absurd (List.isEmpty_iff.mpr (List.length_eq_zero_iff.mp lengths)) hasFields
        | cons item rest => rfl
      rw [spell_separated, StructItem.lines, List.map_append, map_spell_code]
      simp only [hasItems, Bool.false_eq_true, if_false, List.map_append, List.map_cons,
        List.map_nil, spell_code, List.append_assoc]

/-! ## Items -/

/-- What a Rust text is made of. -/
inductive Item where
  | uses (names : List String)
  | struct (item : StructItem)
  | table (routes : List (Operation × Method))
  | handler (operation : Operation)

/-- The line of a route. -/
def routePieces (route : Operation × Method) : List Piece :=
  [.code "    cfg.route(", .literal route.1.uri,
    .code (", " ++ methodRoute route.2 ++ ".to(" ++ handlerName route.1 ++ "));")]

/-- The lines of an item. -/
def Item.lines : Item → List (List Piece)
  | .uses names => names.map fun name => [.code name]
  | .struct item => item.lines
  | .table routes =>
      [[.code "pub fn configure(cfg: &mut web::ServiceConfig) \x7b"]] ++ routes.map routePieces ++
        [[.code "\x7d"]]
  | .handler operation =>
      [[.code ("/// Handle " ++ Text.upperText operation.method ++ " " ++ operation.uri ++ ".")],
        [.code ("pub async fn " ++ handlerName operation ++
          "(req: HttpRequest, payload: web::Payload) -> HttpResponse \x7b")],
        [.code "    let _ = (req, payload);"],
        [.code "    unimplemented!(", .literal operation.id, .code ")"],
        [.code "\x7d"]]

/-- The pieces of some items, which are set apart by empty lines. -/
def piecesOf (items : List Item) : List Piece :=
  separated "\n\n" (items.map fun item => separated "\n" item.lines)

theorem separated_append {separator : String} {first second : List (List Piece)}
    (hasFirst : first ≠ []) (hasSecond : second ≠ []) :
    separated separator (first ++ second) =
      separated separator first ++ [.code separator] ++ separated separator second := by
  induction first with
  | nil => exact absurd rfl hasFirst
  | cons part rest ih =>
      cases rest with
      | nil =>
          rw [separated, separated, List.singleton_append, List.intercalate_singleton,
            List.intercalate_cons_of_ne_nil hasSecond, separated]
      | cons next others =>
          have hasNext : next :: others ≠ [] := List.cons_ne_nil _ _
          have more : next :: others ++ second ≠ [] := List.append_ne_nil_of_left_ne_nil hasNext _
          have inRest := ih hasNext
          rw [separated, separated] at inRest
          rw [separated, separated, List.cons_append, List.intercalate_cons_of_ne_nil more, inRest,
            List.intercalate_cons_of_ne_nil hasNext]
          simp only [List.append_assoc]

/-- Items in a row are spelled in a row, with an empty line between them. -/
theorem spell_piecesOf_append {first second : List Item} (hasFirst : first ≠ [])
    (hasSecond : second ≠ []) :
    spell (piecesOf (first ++ second)) =
      spell (piecesOf first) ++ "\n\n" ++ spell (piecesOf second) := by
  rw [piecesOf, List.map_append, separated_append (mt List.map_eq_nil_iff.mp hasFirst)
    (mt List.map_eq_nil_iff.mp hasSecond), spell_append, spell_append, spell_code]
  rfl

/-- A row of lines is empty only if all its lines are. -/
theorem eq_empty_of_mem_of_intercalate {separator : String} {parts : List String}
    (isEmpty : separator.intercalate parts = "") : ∀ part ∈ parts, part = "" := by
  induction parts with
  | nil => exact fun part member => nomatch member
  | cons first rest ih =>
      cases rest with
      | nil =>
          rw [String.intercalate_singleton] at isEmpty
          exact List.forall_mem_singleton.mpr isEmpty
      | cons next others =>
          rw [String.intercalate_cons_cons, String.append_eq_empty_iff,
            String.append_eq_empty_iff] at isEmpty
          exact List.forall_mem_cons.mpr ⟨isEmpty.1.1, ih isEmpty.2⟩

/-- An item with a line that is not empty. -/
def Item.Written (item : Item) : Prop :=
  ∃ line ∈ item.lines, spell line ≠ ""

theorem written_struct (item : StructItem) : (Item.struct item).Written := by
  by_cases noFields : item.fields.isEmpty = true
  · refine ⟨[.code ("pub struct " ++ item.name ++ " \x7b\x7d")], ?_, ?_⟩
    · simp [Item.lines, StructItem.lines, noFields]
    · simp [spell_code]
  · refine ⟨[.code "\x7d"], ?_, by simp [spell_code]⟩
    simp [Item.lines, StructItem.lines, noFields]

theorem written_table (routes : List (Operation × Method)) : (Item.table routes).Written :=
  ⟨[.code "\x7d"], List.mem_append_right _ (List.mem_singleton_self _), by simp [spell_code]⟩

theorem written_handler (operation : Operation) : (Item.handler operation).Written :=
  ⟨[.code "\x7d"], by simp [Item.lines], by simp [spell_code]⟩

/-- Only a text without items is empty. -/
theorem eq_nil_of_spell_piecesOf {items : List Item} (written : ∀ item ∈ items, item.Written)
    (isEmpty : spell (piecesOf items) = "") : items = [] := by
  rw [piecesOf, spell_separated] at isEmpty
  have noItems := eq_empty_of_mem_of_intercalate isEmpty
  apply List.eq_nil_iff_forall_not_mem.mpr
  intro item member
  obtain ⟨line, isLine, filled⟩ := written item member
  have noLines : spell (separated "\n" item.lines) = "" :=
    noItems _ (List.mem_map.mpr ⟨_, List.mem_map_of_mem member, rfl⟩)
  rw [spell_separated] at noLines
  exact filled (eq_empty_of_mem_of_intercalate noLines _ (List.mem_map_of_mem isLine))

/-- Blocks of items are joined to all their items.  Whether anything is left is carried along,
since it decides where a separator stands. -/
theorem joinBlocks_eq {groups : List (List Item)}
    (written : ∀ group ∈ groups, ∀ item ∈ group, item.Written) :
    joinBlocks (groups.map fun group => spell (piecesOf group)) =
      spell (piecesOf groups.flatten) ++ "\n" := by
  have joined : "\n\n".intercalate
      ((groups.map fun group => spell (piecesOf group)).filter fun block => !block.isEmpty) =
        spell (piecesOf groups.flatten) ∧
      (((groups.map fun group => spell (piecesOf group)).filter fun block => !block.isEmpty) = [] ↔
        groups.flatten = []) := by
    induction groups with
    | nil => exact ⟨rfl, by simp⟩
    | cons group rest ih =>
        rw [List.forall_mem_cons] at written
        obtain ⟨isRest, emptyRest⟩ := ih written.2
        rw [List.map_cons, List.flatten_cons]
        by_cases noItems : group = []
        · rw [noItems, List.nil_append, List.filter_cons_of_neg (by decide)]
          exact ⟨isRest, emptyRest⟩
        · have filled : spell (piecesOf group) ≠ "" :=
            fun isEmpty => noItems (eq_nil_of_spell_piecesOf written.1 isEmpty)
          rw [List.filter_cons_of_pos (by simpa [String.isEmpty_iff] using filled)]
          refine ⟨?_, by simp [noItems]⟩
          by_cases noMore : rest.flatten = []
          · rw [emptyRest.mpr noMore, noMore, List.append_nil, String.intercalate_singleton]
          · rw [String.intercalate_cons_of_ne_nil (mt emptyRest.mp noMore), isRest,
              spell_piecesOf_append noItems noMore]
  rw [joinBlocks, joined.1]

end ApiScaffold.RustCode
