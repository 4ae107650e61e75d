import Migration.Blueprint.Column
import Migration.Blueprint.Constraint

namespace Migration

open Json

/-! Blueprints: all that a table is made of. -/

structure Blueprint where
  table : String
  columns : List Column := []
  primaryKey : List String := []
  foreignKeys : List ForeignKey := []
  indexes : List Index := []
  deriving DecidableEq

namespace Blueprint

def column? (blueprint : Blueprint) (name : String) : Option Column :=
  blueprint.columns.find? (·.name = name)

def hasColumn (blueprint : Blueprint) (name : String) : Bool :=
  blueprint.columns.any (·.name = name)

def hasShape (blueprint : Blueprint) (index : Index) : Bool :=
  blueprint.indexes.any (·.shape = index.shape)

/-! Of columns and foreign keys of one name, and of indexes of one shape, the first stays. -/

def addColumn (blueprint : Blueprint) (column : Column) : Blueprint :=
  if blueprint.hasColumn column.name then blueprint
  else { blueprint with columns := blueprint.columns ++ [column] }

def addForeignKey (blueprint : Blueprint) (foreignKey : ForeignKey) : Blueprint :=
  if blueprint.foreignKeys.any (·.name = foreignKey.name) then blueprint
  else { blueprint with foreignKeys := blueprint.foreignKeys ++ [foreignKey] }

def addIndex (blueprint : Blueprint) (index : Index) : Blueprint :=
  if blueprint.hasShape index then blueprint
  else { blueprint with indexes := blueprint.indexes ++ [index] }

def addColumns (blueprint : Blueprint) (columns : List Column) : Blueprint :=
  columns.foldl addColumn blueprint

def addForeignKeys (blueprint : Blueprint) (foreignKeys : List ForeignKey) : Blueprint :=
  foreignKeys.foldl addForeignKey blueprint

def addIndexes (blueprint : Blueprint) (indexes : List Index) : Blueprint :=
  indexes.foldl addIndex blueprint

def hasCompositeKey (blueprint : Blueprint) : Bool :=
  1 < blueprint.primaryKey.length

/-- The columns of a composite key do not carry the marker of a primary column. -/
def setPrimaryKey (blueprint : Blueprint) (key : List String) : Blueprint :=
  { blueprint with
    primaryKey := key
    columns := if 1 < key.length then blueprint.columns.map (·.withoutPrimary)
      else blueprint.columns }

/-- Two blueprints are the same if at most the sign of a zero tells them apart. -/
def same (left right : Blueprint) : Bool :=
  left.table = right.table && sameInOrder Column.same left.columns right.columns
    && left.primaryKey = right.primaryKey && left.foreignKeys = right.foreignKeys
    && left.indexes = right.indexes

end Blueprint

/-! ## Documents -/

instance : Encode Blueprint where
  encode blueprint := .object (
    field "table" blueprint.table ++ field "columns" blueprint.columns
      ++ listField "primary_key" blueprint.primaryKey
      ++ listField "foreign_keys" blueprint.foreignKeys
      ++ listField "indexes" blueprint.indexes)

instance : Decode Blueprint where
  decode value := do
    let record ← decodeRecord
      ["table", "columns", "primary_key", "foreign_keys", "indexes"] value
    return {
      table := ← record.required "table"
      columns := ← record.required "columns"
      primaryKey := ← record.orElse "primary_key" []
      foreignKeys := ← record.orElse "foreign_keys" []
      indexes := ← record.orElse "indexes" [] }

end Migration
