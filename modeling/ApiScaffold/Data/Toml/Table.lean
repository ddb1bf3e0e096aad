import ApiScaffold.Data.Fault
import ApiScaffold.Data.Value

/-!
# The tables of a TOML text

A text builds up one table.  A path of keys leads from it to a table inside it; on
the way, an array of tables stands for its last table.

`Tables` also keeps which paths may not be used again.  A table that was declared,
or that came into being as part of a dotted key, cannot be declared again, and
what is written as an inline value can never be extended.
-/

namespace ApiScaffold.Toml

/-- The entries of a table. -/
abbrev Table := List (Scalar × Value)

/-- A value that holds exactly one table at its end. -/
def withLastTable (update : Table → Except DecodingFault Table) (throughLists : Bool) :
    Value → Except DecodingFault Value
  | .mapping entries => (update entries).map .mapping
  | .list items =>
      match throughLists, items.getLast? with
      | true, some (.mapping entries) =>
          (update entries).map fun entries => .list (items.dropLast ++ [.mapping entries])
      | _, _ => .error .malformed
  | _ => .error .malformed

/-- Change the table at the end of a path.  Tables that are missing are created. -/
def updateTable (throughLists : Bool) (update : Table → Except DecodingFault Table) :
    List String → Table → Except DecodingFault Table
  | [], table => update table
  | key :: path, table =>
      let inner := (Value.findText table key).getD (.mapping [])
      (withLastTable (updateTable throughLists update path) throughLists inner).map fun value =>
        Value.putEntry table (.text key) value

/-- Write an entry under a key that is still free. -/
def addEntry (key : String) (value : Value) (table : Table) : Except DecodingFault Table :=
  match Value.findText table key with
  | some _ => .error .malformed
  | none => .ok (Value.putEntry table (.text key) value)

/-- Add an empty table to the array of tables under a key. -/
def addTable (key : String) (table : Table) : Except DecodingFault Table :=
  match Value.findText table key with
  | none => .ok (Value.putEntry table (.text key) (.list [.mapping []]))
  | some (.list items) => .ok (Value.putEntry table (.text key) (.list (items ++ [.mapping []])))
  | some _ => .error .malformed

/-- Write an entry at the end of a path that is not empty. -/
def addAtPath (throughLists : Bool) (path : List String) (value : Value) (table : Table) :
    Except DecodingFault Table :=
  match path.getLast? with
  | none => .error .malformed
  | some key => updateTable throughLists (addEntry key value) path.dropLast table

/-- The tables of a text and what may not be done to them. -/
structure Tables where
  root : Table
  /-- The path of the table that entries are written to. -/
  header : List String
  /-- The paths that cannot be declared again. -/
  declared : List (List String)
  /-- The paths that will be declared when the section ends. -/
  pending : List (List String)
  /-- The paths below which nothing can be written. -/
  frozen : List (List String)

namespace Tables

/-- The tables of an empty text. -/
def empty : Tables :=
  ⟨[], [], [], [], []⟩

/-- Whether a path lies at or below a frozen path. -/
def isFrozen (frozen : List (List String)) (path : List String) : Bool :=
  frozen.any fun start => start.isPrefixOf path

/-- Whether a value is written as a whole, so that it cannot be extended. -/
def isInline : Value → Bool
  | .list _ | .mapping _ => true
  | _ => false

/-- End the current section. -/
def endSection (tables : Tables) : Tables :=
  { tables with declared := tables.pending ++ tables.declared, pending := [] }

/-- Declare a table and go on in it. -/
def declareTable (tables : Tables) (path : List String) : Except DecodingFault Tables := do
  if tables.declared.contains path || isFrozen tables.frozen path then throw .malformed
  let root ← updateTable true .ok path tables.root
  pure { tables with root := root, header := path, declared := path :: tables.declared }

/-- Declare another table of an array and go on in it.  The paths inside the array
are free again. -/
def declareArrayTable (tables : Tables) (path : List String) : Except DecodingFault Tables := do
  if isFrozen tables.frozen path then throw .malformed
  let outside := fun other : List String => !path.isPrefixOf other
  match path.getLast? with
  | none => throw .malformed
  | some key =>
      let root ← updateTable true (addTable key) path.dropLast tables.root
      pure { tables with
        root := root
        header := path
        declared := path :: tables.declared.filter outside
        frozen := tables.frozen.filter outside }

/-- The tables that a dotted key passes through, from the current table on. -/
def passedTables (header key : List String) : List (List String) :=
  (List.range (key.length - 1)).map fun count => header ++ key.take (count + 1)

/-- Write an entry into the current table. -/
def write (tables : Tables) (key : List String) (value : Value) : Except DecodingFault Tables := do
  let passed := passedTables tables.header key
  if passed.any tables.declared.contains then throw .malformed
  if isFrozen tables.frozen (tables.header ++ key.dropLast) then throw .malformed
  let path := tables.header ++ key
  let root ← addAtPath true path value tables.root
  pure { tables with
    root := root
    pending := passed ++ tables.pending
    frozen := if isInline value then path :: tables.frozen else tables.frozen }

end Tables

end ApiScaffold.Toml
