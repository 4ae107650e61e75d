import Migration.Failure
import Migration.Naming
import Migration.Property.Json

namespace Migration

open Json

/-! Entities: named lists of properties, each kept in a table of its own. -/

/-- An index over properties. -/
structure DeclaredIndex where
  columns : List String
  unique : Bool := false
  name : Option String := none
  deriving DecidableEq

/-- The two entities that a join entity stands between. -/
structure Pair where
  first : String
  second : String
  deriving DecidableEq

def Pair.joins (pair : Pair) (left right : String) : Bool :=
  (pair.first = left && pair.second = right) || (pair.first = right && pair.second = left)

structure TableOptions where
  table : Option String := none
  key : KeyStrategy := .bigIncrements
  timestamps : Bool := true
  softDelete : Bool := false
  indexes : List DeclaredIndex := []
  unique : List (List String) := []
  hidden : Bool := false
  pivotFor : Option Pair := none
  deriving DecidableEq

structure Entity where
  name : String := ""
  properties : Keyed Property := []
  options : TableOptions := {}
  caption : Option Caption := none

namespace Entity

/-- An empty name of a table counts as none. -/
def table (entity : Entity) : String :=
  match entity.options.table with
  | some table => if table = "" then tableName entity.name else table
  | none => tableName entity.name

def key (entity : Entity) : KeyStrategy :=
  entity.options.key

def property? (entity : Entity) (name : String) : Option Property :=
  entity.properties.get? name

def associations (entity : Entity) : Keyed Association :=
  entity.properties.filterMap fun (name, property) =>
    property.association?.map fun association => (name, association)

def primaryProperties (entity : Entity) : List String :=
  (entity.properties.filter (·.2.isPrimary)).map (·.1)

def joins (entity : Entity) (left right : String) : Bool :=
  (entity.options.pivotFor.map (·.joins left right)).getD false

/-- The entity under a name of its own, or else under the given one. -/
def namedOr (entity : Entity) (name : String) : Entity :=
  if entity.name = "" then { entity with name := name } else entity

end Entity

/-! ## Findings -/

/-- A letter or an underscore, and then letters, numbers and underscores. -/
def isIdentifier (text : String) : Bool :=
  match text.toList with
  | [] => false
  | first :: rest =>
      (Text.isAlphabetic first || first = '_')
        && rest.all fun c => Text.isAlphanumeric c || c = '_'

/-- What is wrong with a property whatever the schema. -/
def Property.fault? : Property → Option String
  | scalar value => if value.typeName = "" then some "Scalar type cannot be empty" else none
  | enumeration value =>
      if value.values.isEmpty then some "Enum must declare at least one value" else none
  | association value =>
      if value.target = "" ∧ value.relation ≠ .morphTo then
        some "Association target cannot be empty"
      else if value.isInverse && value.owning = some true then
        some "Association cannot be both owning and mapped_by"
      else none
  | _ => none

namespace Entity

def nameFindings (entity : Entity) : List Failure :=
  if isIdentifier entity.name then []
  else [.invalidEntity entity.name
    ("Entity name '" ++ entity.name ++ "' is not a valid identifier")]

def propertyFindings (entity : Entity) : List Failure :=
  entity.properties.filterMap fun (name, property) =>
    property.fault?.map (.invalidProperty entity.name name)

def keyFindings (entity : Entity) : List Failure :=
  if entity.key = .declared ∧ entity.primaryProperties.isEmpty then
    [.invalidEntity entity.name "Entity has no generated key and no primary properties"]
  else []

/-- Nothing more is said about an entity without a name. -/
def findings (entity : Entity) : List Failure :=
  if entity.name = "" then [.invalidEntity "" "Entity name cannot be empty"]
  else entity.nameFindings ++ entity.propertyFindings ++ entity.keyFindings

end Entity

/-! ## Documents -/

instance : Encode DeclaredIndex where
  encode index := .object (
    field "columns" index.columns ++ field "unique" index.unique
      ++ optionalField "name" index.name)

instance : Decode DeclaredIndex where
  decode value := do
    let record ← decodeRecord ["columns", "unique", "name"] value
    return {
      columns := ← record.required "columns"
      unique := ← record.orElse "unique" false
      name := ← record.optional "name" }

instance : Encode Pair := ⟨fun pair => encode [pair.first, pair.second]⟩

instance : Decode Pair where
  decode
    | .array [first, second] => do return ⟨← decode first, ← decode second⟩
    | _ => .error (.unexpected "two names")

instance : Encode TableOptions where
  encode options := .object (
    optionalField "table" options.table ++ field "primary_key" options.key
      ++ field "timestamps" options.timestamps ++ field "soft_delete" options.softDelete
      ++ listField "indexes" options.indexes ++ listField "unique" options.unique
      ++ field "hidden" options.hidden ++ optionalField "pivot_for" options.pivotFor)

instance : Decode TableOptions where
  decode value := do
    let record ← decodeRecord
      ["table", "primary_key", "timestamps", "soft_delete", "indexes", "unique", "hidden",
       "pivot_for"] value
    return {
      table := ← record.optional "table"
      key := ← record.orElse "primary_key" .bigIncrements
      timestamps := ← record.orElse "timestamps" true
      softDelete := ← record.orElse "soft_delete" false
      indexes := ← record.orElse "indexes" []
      unique := ← record.orElse "unique" []
      hidden := ← record.orElse "hidden" false
      pivotFor := ← record.optional "pivot_for" }

instance : Encode Entity where
  encode entity := .object (
    field "name" entity.name ++ field "properties" entity.properties
      ++ field "options" entity.options ++ optionalField "display_name" entity.caption)

instance : Decode Entity where
  decode value := do
    let record ← decodeRecord ["name", "properties", "options", "display_name"] value
    return {
      name := ← record.orElse "name" ""
      properties := ← record.orElse "properties" []
      options := ← record.orElse "options" {}
      caption := ← record.optional "display_name" }

end Migration
