import Migration.Blueprint.Parts

namespace Migration

/-! The blueprint of an entity's own table. -/

def timestampColumns : List Column :=
  [{ name := "created_at", storage := .timestamp, modifiers := [.nullable] },
   { name := "updated_at", storage := .timestamp, modifiers := [.nullable] }]

def softDeleteColumn : Column :=
  { name := "deleted_at", storage := .timestamp, modifiers := [.nullable] }

/-- A blueprint in the making and the columns of its key so far. -/
structure Draft where
  blueprint : Blueprint
  key : List String

namespace Draft

/-- A generated key leaves no column of a property primary. Of two columns of one name the first
stays. -/
def addColumn (strategy : KeyStrategy) (draft : Draft) (column : Column) : Draft :=
  let column := if strategy = .declared then column else column.withoutPrimary
  if draft.blueprint.hasColumn column.name then draft
  else
    { blueprint := draft.blueprint.addColumn column
      key := if column.isPrimary then draft.key ++ [column.name] else draft.key }

def addParts (strategy : KeyStrategy) (draft : Draft) (parts : Parts) : Draft :=
  let draft := parts.columns.foldl (addColumn strategy) draft
  { draft with
    blueprint := (draft.blueprint.addForeignKeys parts.foreignKeys).addIndexes parts.indexes }

end Draft

namespace Context

def startDraft (context : Context) (entity : Entity) : Draft :=
  match context.keyColumn? entity.key with
  | some column => ⟨{ table := entity.table, columns := [column] }, [column.name]⟩
  | none => ⟨{ table := entity.table }, []⟩

/-- Plain properties come before associations. -/
def propertyParts (context : Context) (entity : Entity) : List Parts :=
  let plain := entity.properties.filter (!·.2.isAssociation)
  let associations := entity.properties.filter (·.2.isAssociation)
  (plain ++ associations).map fun (name, property) =>
    context.parts entity.name entity.table name property

/-- The columns that the options ask for. -/
def optionColumns (options : TableOptions) : List Column :=
  (if options.timestamps then timestampColumns else [])
    ++ (if options.softDelete then [softDeleteColumn] else [])

/-- An index over properties as one over their columns. -/
def physicalIndex (entity : Option Entity) (table : String) (declared : DeclaredIndex) : Index :=
  let columns := declared.columns.map fun property =>
    match entity with
    | some entity => physicalColumn entity property
    | none => Text.snakeCase property
  let index := Index.onColumns table columns declared.unique
  match declared.name with
  | some name => { index with name := name }
  | none => index

def optionIndexes (entity : Entity) : List Index :=
  let unique : List DeclaredIndex :=
    entity.options.unique.map fun columns => { columns := columns, unique := true }
  (entity.options.indexes ++ unique).map (physicalIndex (some entity) entity.table)

def build (context : Context) (entity : Entity) : Blueprint :=
  let draft := (context.propertyParts entity).foldl (Draft.addParts entity.key)
    (context.startDraft entity)
  ((draft.blueprint.setPrimaryKey draft.key).addColumns (optionColumns entity.options)).addIndexes
    (optionIndexes entity)

end Context

end Migration
