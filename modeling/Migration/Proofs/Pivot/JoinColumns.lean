import Migration.Proofs.Blueprint.ConstraintNames
import Migration.Proofs.Blueprint.Extension
import Migration.Proofs.Pivot.References

namespace Migration

/-! What a join table is made of. Its two key columns have names of their own that stay apart in
the names of its constraints, and no field of the join takes the place of one of them. -/

theorem isSettled_distinctForeignColumn (name target property : String) :
    Text.IsSettled (distinctForeignColumn (foreignKeyColumn name) target property) := by
  rw [distinctForeignColumn]
  split
  case isTrue => exact isSettled_foreignKeyColumn target
  case isFalse =>
    split
    case isTrue => exact isSettled_foreignKeyColumn _
    case isFalse => exact .append (by decide) (isSettled_foreignKeyColumn name)

/-- The table stands between the keys of its two sides, in two columns of its own, and nothing that
is declared stands in its place. -/
structure JoinTable.Sound (join : JoinTable) (context : Context) : Prop where
  apart : join.localColumn ≠ join.foreignColumn
  free : ∀ entity ∈ context.schema.entities.values, entity.table ≠ join.table
  undeclared : ∀ entity ∈ context.schema.entities.values, ∀ pair ∈ entity.options.pivotFor,
    pair ≠ ⟨join.owner, join.target⟩ ∧ pair ≠ ⟨join.target, join.owner⟩
  distinct : ((join.blueprint context).columns.map (·.name)).Nodup
  keyColumns : ∃ rest, (join.blueprint context).columns =
    context.referenceColumn join.localColumn (context.schema.keyTypeOf join.owner)
      :: context.referenceColumn join.foreignColumn (context.schema.keyTypeOf join.target) :: rest
  unmarked : ∀ column ∈ (join.blueprint context).columns, column.isPrimary = false
  primaryKey : (join.blueprint context).primaryKey = [join.localColumn, join.foreignColumn]
  foreignKeys : (join.blueprint context).foreignKeys.map
      (fun foreignKey => (foreignKey.columns, foreignKey.referencedTable,
        foreignKey.referencedColumn)) =
    [(join.localColumn, join.owner), (join.foreignColumn, join.target)].map
      fun (column, entity) => ([column], context.schema.tableOf entity,
        context.schema.referencedColumn entity)
  indexes : (join.blueprint context).indexes.map Index.shape =
    [([join.localColumn, join.foreignColumn], true), ([join.localColumn], false),
      ([join.foreignColumn], false)]

namespace JoinTable

variable (join : JoinTable) (context : Context)

def keyIndexes : List Index :=
  [Index.onColumns join.table [join.localColumn, join.foreignColumn] true,
    Index.onColumns join.table [join.localColumn] false,
    Index.onColumns join.table [join.foreignColumn] false]

theorem blueprint_indexes : (join.blueprint context).indexes =
    ByKey.addAll Index.shape [] join.keyIndexes := by
  rw [blueprint]
  dsimp only
  rw [Blueprint.addIndexes_eq, Blueprint.addForeignKeys_eq, Blueprint.addColumns_eq]
  rfl

theorem nodup_blueprint_columns :
    (ByKey.keys Column.name (join.blueprint context).columns).Nodup := by
  rcases join.exists_blueprint_columns_eq context with ⟨rest, columns⟩
  rw [columns, Blueprint.keys_withoutPrimary]
  exact ByKey.nodup_addAll_nil Column.name _

theorem isPrimary_of_mem_blueprint_columns {column : Column}
    (member : column ∈ (join.blueprint context).columns) : column.isPrimary = false := by
  rcases join.exists_blueprint_columns_eq context with ⟨rest, columns⟩
  rw [columns] at member
  rcases List.mem_map.mp member with ⟨before, _, rfl⟩
  exact before.isPrimary_withoutPrimary

variable {join} (apart : join.localColumn ≠ join.foreignColumn)

include apart

theorem exists_blueprint_columns_eq_append : ∃ rest, (join.blueprint context).columns =
    join.keyColumns context ++ rest := by
  rcases join.exists_blueprint_columns_eq context with ⟨more, columns⟩
  have stay : ByKey.addAll Column.name [] (join.keyColumns context) = join.keyColumns context :=
    ByKey.addAll_eq_append _ (by simp) (by simp [keyColumns, apart])
  have unmarked : (join.keyColumns context).map (·.withoutPrimary) = join.keyColumns context := by
    simp [keyColumns, Column.withoutPrimary_of_unmarked]
  rcases ByKey.exists_addAll_eq_append Column.name (join.keyColumns context) more with
    ⟨added, _, whole⟩
  refine ⟨added.map (·.withoutPrimary), ?_⟩
  rw [columns, ← ByKey.addAll_addAll, stay, whole, List.map_append, unmarked]

theorem blueprint_foreignKeys_eq (localSettled : Text.IsSettled join.localColumn)
    (foreignSettled : Text.IsSettled join.foreignColumn) :
    (join.blueprint context).foreignKeys = join.keyReferences context := by
  have differ : constraintName join.table [join.localColumn] "foreign" ≠
      constraintName join.table [join.foreignColumn] "foreign" :=
    fun same => apart (constraintName_inj localSettled foreignSettled same)
  rw [blueprint_foreignKeys, ByKey.addAll_eq_append]
  · rfl
  · simp
  · simpa [keyReferences, ForeignKey.onColumn] using differ

theorem blueprint_indexes_eq : (join.blueprint context).indexes = join.keyIndexes := by
  rw [blueprint_indexes, ByKey.addAll_eq_append]
  · rfl
  · simp
  · simp [keyIndexes, Index.onColumns, Index.shape, apart]

end JoinTable

/-- Whatever the fields of a join are called, every join table that is derived is sound. -/
theorem JoinTable.sound_of_mem_joinTables {context : Context} {entity : Entity} {join : JoinTable}
    (derived : join ∈ context.schema.joinTables entity) : join.Sound context := by
  rcases Schema.exists_derivedFrom_of_mem_joinTables derived with
    ⟨property, association, _, origin⟩
  have localSettled : Text.IsSettled join.localColumn :=
    origin.localColumn ▸ isSettled_foreignKeyColumn entity.name
  have foreignSettled : Text.IsSettled join.foreignColumn := by
    rw [origin.foreignColumn, origin.localColumn]
    exact isSettled_distinctForeignColumn entity.name join.target property
  refine {
    apart := origin.apart
    free := origin.free
    undeclared := fun other isEntity pair declared => ?_
    distinct := join.nodup_blueprint_columns context
    keyColumns := JoinTable.exists_blueprint_columns_eq_append context origin.apart
    unmarked := fun column member => join.isPrimary_of_mem_blueprint_columns context member
    primaryKey := rfl
    foreignKeys := ?_
    indexes := ?_ }
  · have unjoined := origin.noJoinEntity other isEntity
    rw [Entity.joins, declared] at unjoined
    have neither : pair.joins join.owner join.target = false := unjoined
    rw [Pair.joins] at neither
    constructor <;> rintro rfl <;> simp at neither
  · rw [JoinTable.blueprint_foreignKeys_eq context origin.apart localSettled foreignSettled]
    rfl
  · rw [JoinTable.blueprint_indexes_eq context origin.apart]
    rfl

/-! Friends are people themselves. What is noted of a friendship is called like the columns that
the table has anyhow. -/

def acquainted : Entity where
  name := "Person"
  properties := [("friends", .association {
    relation := .manyToMany
    target := "Person"
    pivotFields := [
      ("friendId", .scalar { typeName := "string", primary := true }),
      ("person_id", .enumeration { values := ["left", "right"] }),
      ("createdAt", .scalar { typeName := "string", primary := true })] })]

def friendContext : Context :=
  .ofSettings { entities := [("Person", acquainted)] } {}

theorem friendContext_join_sound : ∃ join ∈ friendContext.schema.joinTables acquainted,
    (join.localColumn, join.foreignColumn) = ("person_id", "friend_id")
      ∧ (join.blueprint friendContext).columns.map (·.name) =
        ["person_id", "friend_id", "created_at", "updated_at"]
      ∧ join.Sound friendContext := by
  have found : ∃ join ∈ friendContext.schema.joinTables acquainted,
      (join.localColumn, join.foreignColumn) = ("person_id", "friend_id")
        ∧ (join.blueprint friendContext).columns.map (·.name) =
          ["person_id", "friend_id", "created_at", "updated_at"] := by decide +kernel
  rcases found with ⟨join, derived, pair, columns⟩
  exact ⟨join, derived, pair, columns, JoinTable.sound_of_mem_joinTables derived⟩

end Migration
