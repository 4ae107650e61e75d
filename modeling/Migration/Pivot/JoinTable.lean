import Migration.Blueprint.Build
import Migration.Pivot.Ownership

namespace Migration

open Json

/-! The join tables of many-to-many associations. -/

structure JoinTable where
  table : String
  owner : String
  property : String
  target : String
  /-- The column that refers to the owner. -/
  localColumn : String
  /-- The column that refers to the target. -/
  foreignColumn : String
  pivotFields : Keyed Property := []
  onDelete : ReferentialAction
  onUpdate : ReferentialAction

namespace JoinTable

/-- The key columns, the pivot fields and the timestamps, of which the first of a name stays. The
two key columns together are the primary key. -/
def blueprint (join : JoinTable) (context : Context) : Blueprint :=
  let schema := context.schema
  let keyColumns :=
    [context.referenceColumn join.localColumn (schema.keyTypeOf join.owner),
     context.referenceColumn join.foreignColumn (schema.keyTypeOf join.target)]
  let fieldColumns := join.pivotFields.flatMap fun (name, property) =>
    (context.plainColumns name property).map (·.withoutPrimary)
  let stamps := if context.settings.pivotTimestamps then timestampColumns else []
  let foreignKeys := [(join.localColumn, join.owner), (join.foreignColumn, join.target)].map
    fun (column, entity) =>
      { ForeignKey.onColumn join.table column (schema.tableOf entity)
          (schema.referencedColumn entity) with
        onDelete := join.onDelete
        onUpdate := join.onUpdate }
  let pair := [join.localColumn, join.foreignColumn]
  let indexes :=
    [Index.onColumns join.table pair true,
     Index.onColumns join.table [join.localColumn] false,
     Index.onColumns join.table [join.foreignColumn] false]
  (((({ table := join.table : Blueprint }.addColumns (keyColumns ++ fieldColumns ++ stamps))
    ).addForeignKeys foreignKeys).addIndexes indexes).setPrimaryKey pair

end JoinTable

/-! ## Derivation -/

/-- The name that either side gives, or else the one made of both tables. -/
def Schema.joinTableOf (schema : Schema) (entity : Entity) (side : Side) : String :=
  let association := side.association
  (association.joinTable.or (side.counterpart.bind (·.2.joinTable))).getD
    (joinTableName entity.table (schema.tableOf association.target))

/-- A column for the target that is not the one for the owner. -/
def distinctForeignColumn (localColumn target property : String) : String :=
  let byTarget := foreignKeyColumn target
  let byProperty := foreignKeyColumn (singularize (Text.snakeCase property))
  if byTarget ≠ localColumn then byTarget
  else if byProperty ≠ localColumn then byProperty
  else "related_" ++ localColumn

/-- The join table of one property, if this side owns it and neither a declared join entity nor a
table of that name stands in for it. -/
def Schema.joinTable? (schema : Schema) (entity : Entity) (property : String)
    (association : Association) : Option JoinTable :=
  let side := schema.side entity property association
  let table := schema.joinTableOf entity side
  let localColumn := foreignKeyColumn entity.name
  if association.relation ≠ .manyToMany || !side.owns
      || (schema.joinEntity? entity.name association.target).isSome
      || schema.entities.values.any (·.table = table) then
    none
  else
    some
      { table := table
        owner := entity.name
        property := property
        target := association.target
        localColumn := localColumn
        foreignColumn := distinctForeignColumn localColumn association.target property
        pivotFields := association.pivotFields
        onDelete := association.onDelete.getD .cascade
        onUpdate := association.onUpdate.getD .cascade }

/-- Of the values with one key the first stays. -/
def firstOfEach {α : Type} (key : α → String) (values : List α) : List α :=
  values.foldl (fun kept value => if kept.any (key · = key value) then kept else kept ++ [value]) []

/-- The join tables that an entity owns, in the order of its properties. -/
def Schema.joinTables (schema : Schema) (entity : Entity) : List JoinTable :=
  firstOfEach (·.table) (entity.associations.filterMap fun (property, association) =>
    schema.joinTable? entity property association)

instance : Encode JoinTable where
  encode join := .object (
    field "table" join.table ++ field "owner" join.owner ++ field "property" join.property
      ++ field "target" join.target ++ field "local_column" join.localColumn
      ++ field "foreign_column" join.foreignColumn
      ++ entriesField "pivot_fields" join.pivotFields
      ++ field "on_delete" join.onDelete ++ field "on_update" join.onUpdate)

end Migration
