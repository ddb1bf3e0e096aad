import ApiScaffold.Data.Yaml.Token
import ApiScaffold.Data.Yaml.Tag

/-!
# The nodes of a YAML text

A document is a graph of tagged nodes, which are told apart by numbers: a collection
gives its parts by their numbers.  A node may carry an anchor, and a later reference to
the anchor is the same node; inside a collection it can be that collection itself.

The tokens are read by recursive descent.  Every step takes a token or goes from a
collection to one of its nodes, so the number of tokens bounds the depth of the
recursion.  Collections can only be nested up to a limit.
-/

namespace ApiScaffold.Yaml

/-- A tagged node. -/
inductive Node where
  | scalar (tag : String) (text : String)
  | sequence (tag : String) (items : List Nat)
  | mapping (tag : String) (entries : List (Nat × Nat))
  deriving Inhabited

/-- The nodes of a document, by their numbers, and the number of the root. -/
structure NodeGraph where
  nodes : Array Node
  root : Nat

/-- The state of reading nodes from tokens. -/
structure Composer where
  tokens : List Token
  /-- Why there is no token behind the last one. -/
  fault : Option DecodingFault
  nodes : Array Node
  /-- The numbers of the nodes with an anchor. -/
  anchors : List (String × Nat)
  /-- What the shorthands of tags stand for. -/
  handles : List (String × String)

/-- A step of reading nodes. -/
abbrev Compose (α : Type) := StateT Composer (Except DecodingFault) α

/-- The tokens do not form a document. -/
def refuse {α : Type} : Compose α :=
  throw .malformed

/-- The most collections that can be nested. -/
def nestingLimit : Nat := 486

/-- The next token, which is left in place. -/
def peekToken : Compose Token := do
  let composer ← get
  match composer.tokens, composer.fault with
  | token :: _, _ => pure token
  | [], some fault => throw fault
  | [], none => pure .streamEnd

/-- Go over the next token. -/
def skipToken : Compose Unit :=
  modify fun composer => { composer with tokens := composer.tokens.tail }

/-- Go over the next token if it is the expected one. -/
def skipIf (expected : Token) : Compose Bool := do
  let token ← peekToken
  if token = expected then
    skipToken
    pure true
  else pure false

/-- What the shorthands stand for unless a document says otherwise. -/
def defaultHandles : List (String × String) :=
  [("!", "!"), ("!!", tagFamily)]

/-- The full tag of a handle and the rest. -/
def fullTag (handle : Option String) (rest : String) : Compose String := do
  match handle with
  | none => pure rest
  | some handle =>
      match (← get).handles.lookup handle with
      | some expansion => pure (expansion ++ rest)
      | none => refuse

/-- The anchor and the tag in front of a node, in either order. -/
def nodeProperties : Compose (Option String × Option String) := do
  match ← peekToken with
  | .anchored name =>
      skipToken
      match ← peekToken with
      | .tag handle rest =>
          skipToken
          pure (some name, some (← fullTag handle rest))
      | _ => pure (some name, none)
  | .tag handle rest =>
      skipToken
      match ← peekToken with
      | .anchored name =>
          skipToken
          pure (some name, some (← fullTag handle rest))
      | _ => pure (none, some (← fullTag handle rest))
  | _ => pure (none, none)

/-- The tag of a collection; without one, or with the tag `!`, it is the usual one. -/
def collectionTag (tag : Option String) (usual : String) : String :=
  match tag with
  | none => usual
  | some tag => if tag = "!" then usual else tag

/-- The tag of a scalar.  Only plain scalars, and those with the tag `!`, are
recognised by their text. -/
def scalarTag (tag : Option String) (style : ScalarStyle) (text : String) : String :=
  match tag with
  | none => if style = .plain then impliedTag text else textTag
  | some tag => if tag = "!" then impliedTag text else tag

/-- Add a node, and give its number. -/
def addNode (node : Node) : Compose Nat := do
  let composer ← get
  set { composer with nodes := composer.nodes.push node }
  pure composer.nodes.size

/-- Put a node in the place of another one. -/
def replaceNode (number : Nat) (node : Node) : Compose Unit :=
  modify fun composer => { composer with nodes := composer.nodes.setIfInBounds number node }

/-- Add a scalar. -/
def addScalar (tag : Option String) (style : ScalarStyle) (text : String) : Compose Nat :=
  addNode (.scalar (scalarTag tag style text) text)

/-- Add the node where nothing is written. -/
def addEmpty : Compose Nat :=
  addScalar none .plain ""

/-- Give an anchor to the node with a number. -/
def setAnchor (anchor : Option String) (number : Nat) : Compose Unit :=
  match anchor with
  | none => pure ()
  | some name =>
      modify fun composer => { composer with anchors := (name, number) :: composer.anchors }

/-- An anchor is used once. -/
def checkAnchor : Option String → Compose Unit
  | none => pure ()
  | some name => do
      let composer ← get
      if (composer.anchors.lookup name).isSome then refuse

/-- The number of the node that an anchor stands for. -/
def referredNode (name : String) : Compose Nat := do
  match (← get).anchors.lookup name with
  | some number => pure number
  | none => refuse

/-- Add a collection: its anchor can be used while its parts are read. -/
def addCollection {α : Type} (anchor : Option String) (construct : List α → Node)
    (parts : Compose (List α)) : Compose Nat := do
  let number ← addNode (construct [])
  setAnchor anchor number
  let parts ← parts
  replaceNode number (construct parts)
  pure number

/-- Go into a collection, if another one can be nested. -/
def enter : Nat → Compose Nat
  | 0 => throw .tooDeep
  | room + 1 => pure room

/-- Go over the comma in front of a part of a flow collection; the first part has none. -/
def separateFlow (first : Bool) : Compose Unit := do
  if first then pure ()
  else if ← skipIf .flowEntry then pure ()
  else refuse

/-- A node of which only an anchor or a tag is written. -/
def composeEmpty (anchor tag : Option String) : Compose Nat := do
  if anchor.isNone && tag.isNone then refuse
  else
    let number ← addScalar tag .plain ""
    setAnchor anchor number
    pure number

mutual

/-- Read a node.  Block collections are only allowed in block context, and a
sequence without indentation only as part of a block mapping; `room` is the number of
collections that can still be nested. -/
def composeNode (block indentless : Bool) (room : Nat) : Nat → Compose Nat
  | 0 => refuse
  | depth + 1 => do
      match ← peekToken with
      | .reference name =>
          skipToken
          referredNode name
      | _ =>
          let (anchor, tag) ← nodeProperties
          let token ← peekToken
          checkAnchor anchor
          let sequence := addCollection anchor (.sequence (collectionTag tag sequenceTag))
          let mapping := addCollection anchor (.mapping (collectionTag tag mappingTag))
          match token with
          | .scalar text style =>
              skipToken
              let number ← addScalar tag style text
              setAnchor anchor number
              pure number
          | .flowSequenceStart =>
              skipToken
              sequence (do composeFlowItems true [] (← enter room) depth)
          | .flowMappingStart =>
              skipToken
              mapping (do composeFlowEntries true [] (← enter room) depth)
          | .blockEntry =>
              if indentless then sequence (do composeItems true [] (← enter room) depth)
              else composeEmpty anchor tag
          | .blockSequenceStart =>
              if block then
                skipToken
                sequence (do composeItems false [] (← enter room) depth)
              else composeEmpty anchor tag
          | .blockMappingStart =>
              if block then
                skipToken
                mapping (do composeEntries [] (← enter room) depth)
              else composeEmpty anchor tag
          | _ => composeEmpty anchor tag
termination_by structural depth => depth

/-- The items of a block sequence, in reverse while they are read. -/
def composeItems (indentless : Bool) (items : List Nat) (room : Nat) :
    Nat → Compose (List Nat)
  | 0 => refuse
  | depth + 1 => do
      if ← skipIf .blockEntry then
        let item ←
          match ← peekToken with
          | .blockEntry | .blockEnd => addEmpty
          | .key | .value => if indentless then addEmpty else composeNode true false room depth
          | _ => composeNode true false room depth
        composeItems indentless (item :: items) room depth
      else if indentless then pure items.reverse
      else if ← skipIf .blockEnd then pure items.reverse
      else refuse
termination_by structural depth => depth

/-- A key or a value of a block mapping, which may be left out. -/
def composePart (room : Nat) : Nat → Compose Nat
  | 0 => refuse
  | depth + 1 => do
      match ← peekToken with
      | .key | .value | .blockEnd => addEmpty
      | _ => composeNode true true room depth
termination_by structural depth => depth

/-- The entries of a block mapping, in reverse while they are read. -/
def composeEntries (entries : List (Nat × Nat)) (room : Nat) :
    Nat → Compose (List (Nat × Nat))
  | 0 => refuse
  | depth + 1 => do
      if ← skipIf .key then
        let key ← composePart room depth
        let value ← if ← skipIf .value then composePart room depth else addEmpty
        composeEntries ((key, value) :: entries) room depth
      else if ← skipIf .blockEnd then pure entries.reverse
      else refuse
termination_by structural depth => depth

/-- A key or a value inside a flow collection, which may be left out. -/
def composeFlowPart (isKey : Bool) (room : Nat) : Nat → Compose Nat
  | 0 => refuse
  | depth + 1 => do
      match ← peekToken with
      | .flowEntry | .flowSequenceEnd | .flowMappingEnd => addEmpty
      | .value => if isKey then addEmpty else composeNode false false room depth
      | _ => composeNode false false room depth
termination_by structural depth => depth

/-- The only entry of a mapping that is written in a flow sequence without braces. -/
def composeFlowPair (room : Nat) : Nat → Compose (List (Nat × Nat))
  | 0 => refuse
  | depth + 1 => do
      let key ← composeFlowPart true room depth
      let value ← if ← skipIf .value then composeFlowPart false room depth else addEmpty
      pure [(key, value)]
termination_by structural depth => depth

/-- The items of a flow sequence, in reverse while they are read.  A key makes a
mapping of one entry. -/
def composeFlowItems (first : Bool) (items : List Nat) (room : Nat) :
    Nat → Compose (List Nat)
  | 0 => refuse
  | depth + 1 => do
      if ← skipIf .flowSequenceEnd then pure items.reverse
      else do
      separateFlow first
      if ← skipIf .key then
        let item ←
          addCollection none (.mapping mappingTag) (do composeFlowPair (← enter room) depth)
        composeFlowItems false (item :: items) room depth
      else if ← skipIf .flowSequenceEnd then pure items.reverse
      else
        let item ← composeNode false false room depth
        composeFlowItems false (item :: items) room depth
termination_by structural depth => depth

/-- The entries of a flow mapping, in reverse while they are read. -/
def composeFlowEntries (first : Bool) (entries : List (Nat × Nat)) (room : Nat) :
    Nat → Compose (List (Nat × Nat))
  | 0 => refuse
  | depth + 1 => do
      if ← skipIf .flowMappingEnd then pure entries.reverse
      else do
      separateFlow first
      if ← skipIf .key then
        let key ← composeFlowPart true room depth
        let value ← if ← skipIf .value then composeFlowPart false room depth else addEmpty
        composeFlowEntries false ((key, value) :: entries) room depth
      else if ← skipIf .flowMappingEnd then pure entries.reverse
      else
        let key ← composeNode false false room depth
        let value ← addEmpty
        composeFlowEntries false ((key, value) :: entries) room depth
termination_by structural depth => depth

end

/-- The instructions in front of a document.  Only one version may be given, and no
handle twice. -/
def composeDirectives (version : Bool) (handles : List (String × String)) :
    Nat → Compose (List (String × String))
  | 0 => refuse
  | rounds + 1 => do
      match ← peekToken with
      | .directive directive =>
          skipToken
          match directive with
          | .version major =>
              if version || major != 1 then refuse else composeDirectives true handles rounds
          | .tag handle expansion =>
              if (handles.lookup handle).isSome then refuse
              else composeDirectives version ((handle, expansion) :: handles) rounds
          | .other => composeDirectives version handles rounds
      | _ => pure (handles ++ defaultHandles)

/-- Go over marks of the end of a document. -/
def skipDocumentEnds : Nat → Compose Unit
  | 0 => pure ()
  | rounds + 1 => do
      if ← skipIf .documentEnd then skipDocumentEnds rounds

/-- Read the only document of the text; an empty text has none. -/
def composeDocument (rounds : Nat) : Compose (Option Nat) := do
  let document ←
    match ← peekToken with
    | .streamEnd => pure none
    | .directive _ | .documentStart =>
        let handles ← composeDirectives false [] rounds
        modify fun composer => { composer with handles := handles }
        if ← skipIf .documentStart then
          match ← peekToken with
          | .directive _ | .documentStart | .documentEnd | .streamEnd => some <$> addEmpty
          | _ => some <$> composeNode true false nestingLimit rounds
        else refuse
    | _ => some <$> composeNode true false nestingLimit rounds
  skipDocumentEnds rounds
  match ← peekToken with
  | .streamEnd => pure document
  | _ => do
      let _ ← composeDirectives false [] rounds
      refuse

/-- The nodes of a text, if it has any. -/
def NodeGraph.ofText? (text : String) : Except DecodingFault (Option NodeGraph) := do
  let row := Token.scan text
  let rounds := 4 * row.tokens.length + 8
  let (root, composer) ←
    (composeDocument rounds).run ⟨row.tokens, row.fault, #[], [], defaultHandles⟩
  pure (root.map fun root => ⟨composer.nodes, root⟩)

end ApiScaffold.Yaml
