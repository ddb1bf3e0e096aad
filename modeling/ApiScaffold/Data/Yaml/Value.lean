import ApiScaffold.Data.Decoded
import ApiScaffold.Data.Yaml.Node
import ApiScaffold.Data.Yaml.Numeral
import ApiScaffold.Text.Base64

/-!
# The value of a YAML text

Values are built from the nodes of a text, as their tags say.  A scalar gets its value
when it is met.  A collection is kept apart, under the number of its node, and what it
holds is built later, in the order in which the collections were met: so a collection can
be part of itself, and of two faults in different collections that of the outer one counts.

Before the entries of a mapping are built, its merge keys are replaced by the entries of
other mappings.  They come before the entries of the mapping itself, which therefore win.
The nodes change by this for everything that refers to them.
-/

namespace ApiScaffold.Yaml

namespace Node

/-- The tag of a node. -/
def tag : Node → String
  | .scalar tag _ | .sequence tag _ | .mapping tag _ => tag

/-- The node with another tag. -/
def withTag (tag : String) : Node → Node
  | .scalar _ text => .scalar tag text
  | .sequence _ items => .sequence tag items
  | .mapping _ entries => .mapping tag entries

end Node

/-- The truth values of words. -/
def truthOfWord? (word : String) : Option Bool :=
  if ["yes", "true", "on"].contains word then some true
  else if ["no", "false", "off"].contains word then some false
  else none

/-- Up to six digits behind the point of a second, as microseconds. -/
def microseconds (digits : List Char) : Nat :=
  Json.digitsValue (digits.take 6 ++ List.replicate (6 - digits.length) '0')

/-- The offset of a timestamp in minutes. -/
def zoneMinutes (zone : Option Char × List Char × List Char) : Int :=
  let minutes : Int := Json.digitsValue zone.2.1 * 60 + Json.digitsValue zone.2.2
  if zone.1 = some '-' then -minutes else minutes

/-- The date or moment that a text writes. -/
def timestampValue (text : String) : Reading Scalar :=
  match timestampParts? (withoutLineFeed text.toList) with
  | none => .error .badTimestamp
  | some parts =>
      let year := Json.digitsValue parts.year
      let month := Json.digitsValue parts.month
      let day := Json.digitsValue parts.day
      match parts.clock with
      | none => ((CalendarDate.make year month day).mapError ScalarFault.badCalendar).map .date
      | some (hour, minute, second, fraction) =>
          let moment :=
            Moment.make year month day (Json.digitsValue hour) (Json.digitsValue minute)
              (Json.digitsValue second) (microseconds fraction) (parts.zone.map zoneMinutes)
          (moment.mapError ScalarFault.badCalendar).map .moment

/-- The bytes that a text carries. -/
def bytesValue (text : String) : Except DecodingFault Scalar :=
  match text.toList.all (fun char => char.toNat < 128), Text.bytesOfBase64? text.toList with
  | true, some bytes => .ok (.bytes bytes)
  | _, _ => .error .malformed

/-- The value of a text with a tag. -/
def scalarValue (tag text : String) : Except DecodingFault Scalar :=
  if tag = textTag then .ok (.text text)
  else if tag = nullTag then .ok .null
  else if tag = booleanTag then
    match truthOfWord? (Text.lowerText text) with
    | some value => .ok (.bool value)
    | none => .error (.scalar (.badBoolean (Text.lowerText text)))
  else if tag = integerTag then ((integerValue text).mapError .scalar).map .int
  else if tag = fractionTag then ((fractionValue text).mapError .scalar).map .float
  else if tag = bytesTag then bytesValue text
  else if tag = timestampTag then (timestampValue text).mapError .scalar
  else .error .malformed

/-- The tags of the collections. -/
def collectionTags : List String :=
  [sequenceTag, mappingTag, setTag, orderedMapTag, pairsTag]

/-- The state of building values. -/
structure Builder where
  nodes : Array Node
  /-- The values that were built so far, by the numbers of their nodes. -/
  built : Array (Option Value)
  /-- What the collections hold. -/
  parts : Array Value
  /-- The numbers of the collections that are to be filled, the last one first. -/
  waiting : List Nat
  /-- A number of rounds that resolving merge keys does not exceed. -/
  mergeRounds : Nat

/-- A step of building values. -/
abbrev Build (α : Type) := StateT Builder (Except DecodingFault) α

/-- No value can be built from the nodes. -/
def reject {α : Type} : Build α :=
  throw .malformed

/-- The node with a number. -/
def nodeAt (number : Nat) : Build Node := do
  pure ((← get).nodes.getD number default)

/-- The entries of the mapping with a number. -/
def entriesAt (number : Nat) : Build (List (Nat × Nat)) := do
  match ← nodeAt number with
  | .mapping _ entries => pure entries
  | _ => reject

/-- Change the node with a number. -/
def changeNode (number : Nat) (change : Node → Node) : Build Unit :=
  modify fun builder => { builder with nodes := builder.nodes.modify number change }

/-- Give a mapping other entries. -/
def setEntries (number : Nat) (entries : List (Nat × Nat)) : Build Unit :=
  changeNode number fun node => .mapping node.tag entries

/-- Take the first of some entries whose key has a tag out of them. -/
def takeTagged (tag : String) : List (Nat × Nat) → Build (Option (Nat × List (Nat × Nat)))
  | [] => pure none
  | (key, value) :: rest => do
      if (← nodeAt key).tag = tag then pure (some (value, rest))
      else
        let taken ← takeTagged tag rest
        pure (taken.map fun (found, others) => (found, (key, value) :: others))

/-- The default key of a mapping is an ordinary key in the end. -/
def settleDefaultKey (key : Nat) : Build Unit := do
  if (← nodeAt key).tag = valueTag then changeNode key (Node.withTag textTag)

mutual

/-- Replace the merge keys of a mapping by the entries that they bring in; `merged` are
those that were brought in so far.  A merge key is taken out before the mappings that it
names are looked at, so that the number of merge keys bounds the rounds. -/
def mergeInto (number : Nat) (merged : List (Nat × Nat)) : Nat → Build Unit
  | 0 => reject
  | rounds + 1 => do
      let entries ← entriesAt number
      match ← takeTagged mergeTag entries with
      | some (source, others) =>
          setEntries number others
          let brought ← mergedEntries source rounds
          mergeInto number (merged ++ brought) rounds
      | none =>
          entries.forM fun (key, _) => settleDefaultKey key
          setEntries number (merged ++ entries)

/-- The entries that a merge key brings in.  Of several mappings the first wins. -/
def mergedEntries (source : Nat) : Nat → Build (List (Nat × Nat))
  | 0 => reject
  | rounds + 1 => do
      match ← nodeAt source with
      | .mapping _ _ =>
          mergeInto source [] rounds
          entriesAt source
      | .sequence _ items =>
          let sources ← items.mapM fun item => do
            let _ ← entriesAt item
            mergeInto item [] rounds
            entriesAt item
          pure sources.reverse.flatten
      | .scalar _ _ => reject

end

/-- Resolve the merge keys of a mapping. -/
def resolveMerges (number : Nat) : Build Unit := do
  mergeInto number [] (← get).mergeRounds

/-- The text of a node; that of a mapping is the text under its default key.  A mapping
whose text is that of itself has none: `rounds` bounds the way to the text. -/
def textAt (number : Nat) : Nat → Build String
  | 0 => throw .tooDeep
  | rounds + 1 => do
      match ← nodeAt number with
      | .scalar _ text => pure text
      | .mapping _ entries =>
          match ← takeTagged valueTag entries with
          | some (value, _) => textAt value rounds
          | none => reject
      | .sequence _ _ => reject

/-- Whether a node is a mapping. -/
def Node.isMapping : Node → Bool
  | .mapping _ _ => true
  | _ => false

/-- The value of the scalar with a number. -/
def scalarAt (number : Nat) : Build Scalar := do
  let node ← nodeAt number
  let text ← textAt number ((← get).nodes.size + 1)
  if node.tag = timestampTag && node.isMapping then throw (.scalar .mappedTimestamp)
  match scalarValue node.tag text with
  | .ok value => pure value
  | .error fault => throw fault

/-- Keep a value for its node. -/
def keepValue (number : Nat) (value : Value) : Build Unit :=
  modify fun builder => { builder with built := builder.built.setIfInBounds number (some value) }

/-- The value of the node with a number.  A collection is filled later. -/
def buildValue (number : Nat) : Build Value := do
  match (← get).built.getD number none with
  | some value => pure value
  | none =>
      if collectionTags.contains (← nodeAt number).tag then
        let value := Value.part number
        keepValue number value
        modify fun builder => { builder with waiting := number :: builder.waiting }
        pure value
      else
        let value := Value.scalar (← scalarAt number)
        keepValue number value
        pure value

/-- A key of a mapping, and the node it comes from if only the same node is the same
key.  The word for "not a number" is the same key wherever it stands. -/
structure BuiltKey where
  scalar : Scalar
  source : Option Nat

/-- Whether two keys are the same. -/
def BuiltKey.same (first second : BuiltKey) : Bool :=
  if first.scalar = .float .nan ∧ second.scalar = .float .nan then first.source == second.source
  else first.scalar.sameKey second.scalar

/-- The key that the node with a number makes; a collection makes none. -/
def buildKey (number : Nat) : Build BuiltKey := do
  match ← buildValue number with
  | .scalar (.float .nan) =>
      let text ← textAt number ((← get).nodes.size + 1)
      pure ⟨.float .nan, if isNanWord text then none else some number⟩
  | .scalar scalar => pure ⟨scalar, none⟩
  | _ => reject

/-- Write an entry of a mapping: a key that is present keeps its place. -/
def putBuilt : List (BuiltKey × Value) → BuiltKey → Value → List (BuiltKey × Value)
  | [], key, value => [(key, value)]
  | (first, old) :: rest, key, value =>
      if first.same key then (first, value) :: rest
      else (first, old) :: putBuilt rest key value

/-- The entries of the mapping with a number. -/
def buildEntries (number : Nat) : Build (List (Scalar × Value)) := do
  let _ ← entriesAt number
  resolveMerges number
  let entries ← (← entriesAt number).foldlM (fun built (key, value) => do
    let key ← buildKey key
    let value ← buildValue value
    pure (putBuilt built key value)) []
  pure (entries.map fun (key, value) => (key.scalar, value))

/-- The items of the sequence with a number. -/
def itemsAt (number : Nat) : Build (List Nat) := do
  match ← nodeAt number with
  | .sequence _ items => pure items
  | _ => reject

/-- The pair of a mapping with one entry. -/
def buildPair (number : Nat) : Build Value := do
  match ← entriesAt number with
  | [(key, value)] => do
      let key ← buildValue key
      let value ← buildValue value
      pure (.list [key, value])
  | _ => reject

/-- What the collection with a number holds. -/
def buildContent (number : Nat) : Build Value := do
  let tag := (← nodeAt number).tag
  if tag = sequenceTag then
    let items ← itemsAt number
    pure (.list (← items.mapM buildValue))
  else if tag = mappingTag then pure (.mapping (← buildEntries number))
  else if tag = setTag then
    let entries ← buildEntries number
    pure (.set (entries.map Prod.fst))
  else
    let items ← itemsAt number
    pure (.list (← items.mapM buildPair))

/-- Fill the collections that wait, and those that are met on the way.  Every round fills
at least one of them, and each is filled once. -/
def fillCollections : Nat → Build Unit
  | 0 => pure ()
  | rounds + 1 => do
      let waiting := (← get).waiting.reverse
      if waiting.isEmpty then pure ()
      else
        modify fun builder => { builder with waiting := [] }
        waiting.forM fun number => do
          let content ← buildContent number
          modify fun builder =>
            { builder with parts := builder.parts.setIfInBounds number content }
        fillCollections rounds

/-- The number of entries of a node. -/
def Node.entryCount : Node → Nat
  | .mapping _ entries => entries.length
  | _ => 0

/-- The state before anything is built. -/
def NodeGraph.start (graph : NodeGraph) : Builder :=
  let count := graph.nodes.size
  let entries := graph.nodes.foldl (fun count node => count + node.entryCount) 0
  ⟨graph.nodes, Array.replicate count none, Array.replicate count (.scalar .null), [],
    3 * entries + 3⟩

/-- The value that the nodes of a text make. -/
def NodeGraph.value (graph : NodeGraph) : Except DecodingFault Decoded := do
  let build : Build Value := do
    let value ← buildValue graph.root
    fillCollections graph.nodes.size
    pure value
  let (value, builder) ← build.run graph.start
  pure ⟨value, builder.parts⟩

/-- Read a YAML document.  A text without a document has the null value. -/
def read (text : String) : Except DecodingFault Decoded := do
  match ← NodeGraph.ofText? text with
  | none => pure (.ofValue (.scalar .null))
  | some graph => graph.value

end ApiScaffold.Yaml
