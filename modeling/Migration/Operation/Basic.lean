import Migration.Blueprint.Build

namespace Migration

open Json

/-! The steps that a migration is made of, and what each does to the blueprint of its table. -/

inductive Operation where
  | createTable (blueprint : Blueprint)
  | dropTable (table : String)
  | addColumn (column : Column)
  | alterColumn (column : Column)
  | dropColumn (column : String)
  | renameColumn (source target : String)
  | addForeignKey (foreignKey : ForeignKey)
  | dropForeignKey (name : String) (columns : List String)
  | addIndex (index : Index)
  | dropIndex (name : String) (columns : List String) (unique : Bool)
  | addTimestamps
  | dropTimestamps
  | addSoftDeletes
  | dropSoftDeletes
  | dropPrimary (columns : List String)
  | addPrimary (columns : List String)
  deriving DecidableEq

namespace Blueprint

/-- The first column of that name is replaced; without one the column is added. -/
def alterColumn (blueprint : Blueprint) (column : Column) : Blueprint :=
  { blueprint with columns := replaceOrAppend blueprint.columns }
where
  replaceOrAppend : List Column → List Column
    | [] => [column]
    | old :: rest => if old.name = column.name then column :: rest else old :: replaceOrAppend rest

def dropColumns (blueprint : Blueprint) (names : List String) : Blueprint :=
  { blueprint with columns := blueprint.columns.filter (!names.contains ·.name) }

/-- The name of a column after the renaming. -/
def renamed (source target name : String) : String :=
  if name = source then target else name

/-- Constraints and indexes follow the column, and keep their own names. -/
def renameColumn (blueprint : Blueprint) (source target : String) : Blueprint :=
  let rename := renamed source target
  { blueprint with
    columns := blueprint.columns.map fun column => { column with name := rename column.name }
    primaryKey := blueprint.primaryKey.map rename
    foreignKeys := blueprint.foreignKeys.map fun foreignKey =>
      { foreignKey with columns := foreignKey.columns.map rename }
    indexes := blueprint.indexes.map fun index =>
      { index with columns := index.columns.map rename } }

def dropForeignKey (blueprint : Blueprint) (name : String) : Blueprint :=
  { blueprint with foreignKeys := blueprint.foreignKeys.filter (·.name ≠ name) }

/-- An index is known by its shape, not by its name. -/
def dropIndex (blueprint : Blueprint) (columns : List String) (unique : Bool) : Blueprint :=
  { blueprint with indexes := blueprint.indexes.filter (·.shape ≠ (columns, unique)) }

end Blueprint

namespace Operation

def apply (blueprint : Blueprint) : Operation → Blueprint
  | createTable created => created
  | dropTable table => { table := table }
  | addColumn column => blueprint.addColumn column
  | alterColumn column => blueprint.alterColumn column
  | dropColumn column => blueprint.dropColumns [column]
  | renameColumn source target => blueprint.renameColumn source target
  | addForeignKey foreignKey => blueprint.addForeignKey foreignKey
  | dropForeignKey name _ => blueprint.dropForeignKey name
  | addIndex index => blueprint.addIndex index
  | dropIndex _ columns unique => blueprint.dropIndex columns unique
  | addTimestamps => blueprint.addColumns timestampColumns
  | dropTimestamps => blueprint.dropColumns ["created_at", "updated_at"]
  | addSoftDeletes => blueprint.addColumn softDeleteColumn
  | dropSoftDeletes => blueprint.dropColumns ["deleted_at"]
  | dropPrimary _ => { blueprint with primaryKey := [] }
  | addPrimary columns => blueprint.setPrimaryKey columns

/-- The blueprint after each of the operations. -/
def states (blueprint : Blueprint) : List Operation → List Blueprint
  | [] => []
  | operation :: rest =>
      let next := operation.apply blueprint
      next :: states next rest

def replay (blueprint : Blueprint) (operations : List Operation) : Blueprint :=
  operations.foldl apply blueprint

@[simp] theorem replay_nil (blueprint : Blueprint) : replay blueprint [] = blueprint := rfl

@[simp] theorem replay_append (blueprint : Blueprint) (first second : List Operation) :
    replay blueprint (first ++ second) = replay (replay blueprint first) second :=
  List.foldl_append ..

/-- The last of the states is what the replay ends in. -/
theorem getLast_states (blueprint : Blueprint) (operations : List Operation) :
    (states blueprint operations).getLast?.getD blueprint = replay blueprint operations := by
  induction operations generalizing blueprint with
  | nil => rfl
  | cons operation rest induction =>
      have ending := induction (operation.apply blueprint)
      simpa [states, replay, List.getLast?_cons] using ending

private def indexKind (unique : Bool) : String :=
  if unique then "unique" else "index"

private def listed (names : List String) : String :=
  ", ".intercalate names

/-- One line for people. -/
def describe : Operation → String
  | createTable blueprint =>
      "create table " ++ blueprint.table ++ " (" ++ toString blueprint.columns.length ++ " columns)"
  | dropTable table => "drop table " ++ table
  | addColumn column => "add column " ++ column.name
  | alterColumn column => "alter column " ++ column.name
  | dropColumn column => "drop column " ++ column
  | renameColumn source target => "rename column " ++ source ++ " to " ++ target
  | addForeignKey foreignKey =>
      "add foreign key " ++ listed foreignKey.columns ++ " -> " ++ foreignKey.referencedTable
        ++ "." ++ foreignKey.referencedColumn
  | dropForeignKey name _ => "drop foreign key " ++ name
  | addIndex index => "add " ++ indexKind index.unique ++ " " ++ listed index.columns
  | dropIndex name _ unique => "drop " ++ indexKind unique ++ " " ++ name
  | addTimestamps => "add timestamps"
  | dropTimestamps => "drop timestamps"
  | addSoftDeletes => "add soft deletes"
  | dropSoftDeletes => "drop soft deletes"
  | dropPrimary columns => "drop primary (" ++ listed columns ++ ")"
  | addPrimary columns => "add primary (" ++ listed columns ++ ")"

end Operation

/-! ## Documents -/

instance : Encode Operation where
  encode
    | .createTable blueprint => tagged "op" "create_table" (field "blueprint" blueprint)
    | .dropTable table => tagged "op" "drop_table" (field "table" table)
    | .addColumn column => tagged "op" "add_column" (field "column" column)
    | .alterColumn column => tagged "op" "alter_column" (field "column" column)
    | .dropColumn column => tagged "op" "drop_column" (field "column" column)
    | .renameColumn source target =>
        tagged "op" "rename_column" (field "from" source ++ field "to" target)
    | .addForeignKey foreignKey =>
        tagged "op" "add_foreign_key" (field "foreign_key" foreignKey)
    | .dropForeignKey name columns =>
        tagged "op" "drop_foreign_key" (field "name" name ++ field "columns" columns)
    | .addIndex index => tagged "op" "add_index" (field "index" index)
    | .dropIndex name columns unique => tagged "op" "drop_index" (
        field "name" name ++ field "columns" columns ++ field "unique" unique)
    | .addTimestamps => tagged "op" "add_timestamps" []
    | .dropTimestamps => tagged "op" "drop_timestamps" []
    | .addSoftDeletes => tagged "op" "add_soft_deletes" []
    | .dropSoftDeletes => tagged "op" "drop_soft_deletes" []
    | .dropPrimary columns => tagged "op" "drop_primary" (field "columns" columns)
    | .addPrimary columns => tagged "op" "add_primary" (field "columns" columns)

instance : Decode Operation where
  decode value := do
    let (name, fields) ← decodeTagged "op" value
    match name with
    | "create_table" =>
        return .createTable (← (← decodeRecord ["blueprint"] fields).required "blueprint")
    | "drop_table" => return .dropTable (← (← decodeRecord ["table"] fields).required "table")
    | "add_column" => return .addColumn (← (← decodeRecord ["column"] fields).required "column")
    | "alter_column" =>
        return .alterColumn (← (← decodeRecord ["column"] fields).required "column")
    | "drop_column" => return .dropColumn (← (← decodeRecord ["column"] fields).required "column")
    | "rename_column" =>
        let record ← decodeRecord ["from", "to"] fields
        return .renameColumn (← record.required "from") (← record.required "to")
    | "add_foreign_key" =>
        return .addForeignKey (← (← decodeRecord ["foreign_key"] fields).required "foreign_key")
    | "drop_foreign_key" =>
        let record ← decodeRecord ["name", "columns"] fields
        return .dropForeignKey (← record.required "name") (← record.required "columns")
    | "add_index" => return .addIndex (← (← decodeRecord ["index"] fields).required "index")
    | "drop_index" =>
        let record ← decodeRecord ["name", "columns", "unique"] fields
        return .dropIndex (← record.required "name") (← record.required "columns")
          (← record.required "unique")
    | "add_timestamps" => return .addTimestamps
    | "drop_timestamps" => return .dropTimestamps
    | "add_soft_deletes" => return .addSoftDeletes
    | "drop_soft_deletes" => return .dropSoftDeletes
    | "drop_primary" =>
        return .dropPrimary (← (← decodeRecord ["columns"] fields).required "columns")
    | "add_primary" =>
        return .addPrimary (← (← decodeRecord ["columns"] fields).required "columns")
    | name => throw (.unknown name)

end Migration
