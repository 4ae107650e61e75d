import Migration.Relation
import Migration.Text.LetterCase

namespace Migration

open Json

/-! Foreign keys and indexes of a table. -/

/-- The table, the columns and the kind of constraint, joined and in lower case. -/
def constraintName (table : String) (columns : List String) (kind : String) : String :=
  let joined := "_".intercalate ([table] ++ columns ++ [kind])
  Text.lowerText (joined.map fun c => if c = '-' || c = '.' then '_' else c)

structure ForeignKey where
  name : String
  columns : List String
  referencedTable : String
  referencedColumn : String
  onDelete : ReferentialAction
  onUpdate : ReferentialAction
  deriving DecidableEq

def ForeignKey.onColumn (table column referencedTable referencedColumn : String) : ForeignKey where
  name := constraintName table [column] "foreign"
  columns := [column]
  referencedTable := referencedTable
  referencedColumn := referencedColumn
  onDelete := .restrict
  onUpdate := .cascade

structure Index where
  name : String
  columns : List String
  unique : Bool
  deriving DecidableEq

namespace Index

def conventionalName (table : String) (columns : List String) (unique : Bool) : String :=
  constraintName table columns (if unique then "unique" else "index")

def onColumns (table : String) (columns : List String) (unique : Bool) : Index where
  name := conventionalName table columns unique
  columns := columns
  unique := unique

/-- What an index is apart from its name. -/
def shape (index : Index) : List String × Bool :=
  (index.columns, index.unique)

end Index

/-! ## Documents -/

instance : Encode ForeignKey where
  encode foreignKey := .object (
    field "name" foreignKey.name ++ field "columns" foreignKey.columns
      ++ field "references_table" foreignKey.referencedTable
      ++ field "references_column" foreignKey.referencedColumn
      ++ field "on_delete" foreignKey.onDelete ++ field "on_update" foreignKey.onUpdate)

instance : Decode ForeignKey where
  decode value := do
    let record ← decodeRecord
      ["name", "columns", "references_table", "references_column", "on_delete", "on_update"] value
    return {
      name := ← record.required "name"
      columns := ← record.required "columns"
      referencedTable := ← record.required "references_table"
      referencedColumn := ← record.required "references_column"
      onDelete := ← record.required "on_delete"
      onUpdate := ← record.required "on_update" }

instance : Encode Index where
  encode index := .object (
    field "name" index.name ++ field "columns" index.columns ++ field "unique" index.unique)

instance : Decode Index where
  decode value := do
    let record ← decodeRecord ["name", "columns", "unique"] value
    return {
      name := ← record.required "name"
      columns := ← record.required "columns"
      unique := ← record.required "unique" }

end Migration
