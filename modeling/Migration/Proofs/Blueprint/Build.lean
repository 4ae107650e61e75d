import Migration.Blueprint.Build
import Migration.Proofs.Operation.Distinct

namespace Migration

/-! What the blueprint of an entity is made of: the generated key, the parts of the properties, and
what the options ask for, of each name or shape the first. -/

namespace Column

/-- The column of a property in a table whose key comes about by the strategy. -/
def under (strategy : KeyStrategy) (column : Column) : Column :=
  if strategy = .declared then column else column.withoutPrimary

@[simp] theorem under_name (strategy : KeyStrategy) (column : Column) :
    (column.under strategy).name = column.name := by
  rw [under]
  split <;> rfl

end Column

/-! ## Drafts -/

namespace Draft

theorem addColumn_blueprint (strategy : KeyStrategy) (draft : Draft) (column : Column) :
    (draft.addColumn strategy column).blueprint =
      draft.blueprint.addColumn (column.under strategy) := by
  unfold addColumn Blueprint.addColumn Column.under
  dsimp only
  split <;> split <;> rfl

theorem addParts_blueprint (strategy : KeyStrategy) (draft : Draft) (parts : Parts) :
    (draft.addParts strategy parts).blueprint =
      { draft.blueprint with
        columns := ByKey.addAll Column.name draft.blueprint.columns
          (parts.columns.map (·.under strategy))
        foreignKeys := ByKey.addAll ForeignKey.name draft.blueprint.foreignKeys parts.foreignKeys
        indexes := ByKey.addAll Index.shape draft.blueprint.indexes parts.indexes } := by
  have columns : (parts.columns.foldl (addColumn strategy) draft).blueprint =
      draft.blueprint.addColumns (parts.columns.map (·.under strategy)) := by
    induction parts.columns generalizing draft with
    | nil => rfl
    | cons column rest induction =>
        rw [List.foldl_cons, induction, addColumn_blueprint]
        rfl
  rw [addParts]
  dsimp only
  rw [columns, Blueprint.addColumns_eq, Blueprint.addForeignKeys_eq, Blueprint.addIndexes_eq]

theorem foldl_addParts_blueprint (strategy : KeyStrategy) (draft : Draft) (every : List Parts) :
    (every.foldl (addParts strategy) draft).blueprint =
      { draft.blueprint with
        columns := ByKey.addAll Column.name draft.blueprint.columns
          (every.flatMap fun parts => parts.columns.map (·.under strategy))
        foreignKeys := ByKey.addAll ForeignKey.name draft.blueprint.foreignKeys
          (every.flatMap (·.foreignKeys))
        indexes := ByKey.addAll Index.shape draft.blueprint.indexes
          (every.flatMap (·.indexes)) } := by
  induction every generalizing draft with
  | nil => rfl
  | cons parts rest induction =>
      rw [List.foldl_cons, induction, addParts_blueprint]
      simp only [ByKey.addAll_addAll, List.flatMap_cons]

/-- The key is made of the columns that are marked as primary. -/
def KeyMarked (draft : Draft) : Prop :=
  draft.key = (draft.blueprint.columns.filter (·.isPrimary)).map (·.name)

theorem KeyMarked.addColumn {draft : Draft} (marked : draft.KeyMarked) (strategy : KeyStrategy)
    (column : Column) : (draft.addColumn strategy column).KeyMarked := by
  by_cases present : draft.blueprint.hasColumn (column.under strategy).name = true
  · have same : draft.addColumn strategy column = draft := by
      rw [Draft.addColumn]
      exact if_pos present
    rwa [same]
  · have added : draft.addColumn strategy column =
        { blueprint := draft.blueprint.addColumn (column.under strategy)
          key := if (column.under strategy).isPrimary then
            draft.key ++ [(column.under strategy).name] else draft.key } := by
      rw [Draft.addColumn]
      exact if_neg present
    rw [added, KeyMarked, Blueprint.addColumn, if_neg present, List.filter_append, List.map_append,
      ← marked]
    cases primary : (column.under strategy).isPrimary <;> simp [primary]

theorem KeyMarked.addParts {draft : Draft} (marked : draft.KeyMarked) (strategy : KeyStrategy)
    (parts : Parts) : (draft.addParts strategy parts).KeyMarked := by
  have columns : (parts.columns.foldl (Draft.addColumn strategy) draft).KeyMarked := by
    induction parts.columns generalizing draft with
    | nil => exact marked
    | cons column rest induction => exact induction (marked.addColumn strategy column)
  rw [KeyMarked, Draft.addParts]
  dsimp only
  rw [Blueprint.addIndexes_eq, Blueprint.addForeignKeys_eq]
  exact columns

theorem KeyMarked.foldl_addParts {draft : Draft} (marked : draft.KeyMarked)
    (strategy : KeyStrategy) (every : List Parts) :
    (every.foldl (Draft.addParts strategy) draft).KeyMarked := by
  induction every generalizing draft with
  | nil => exact marked
  | cons parts rest induction => exact induction (marked.addParts strategy parts)

end Draft

/-! ## The whole blueprint -/

namespace Context

variable (context : Context)

/-- The entity's table before the key is settled and the options are added. -/
def draftOf (entity : Entity) : Draft :=
  (context.propertyParts entity).foldl (Draft.addParts entity.key) (context.startDraft entity)

theorem build_eq (entity : Entity) :
    context.build entity =
      { ((context.draftOf entity).blueprint.setPrimaryKey (context.draftOf entity).key) with
        columns := ByKey.addAll Column.name
          ((context.draftOf entity).blueprint.setPrimaryKey (context.draftOf entity).key).columns
          (optionColumns entity.options)
        indexes := ByKey.addAll Index.shape (context.draftOf entity).blueprint.indexes
          (optionIndexes entity) } := by
  change (((context.draftOf entity).blueprint.setPrimaryKey (context.draftOf entity).key).addColumns
    (optionColumns entity.options)).addIndexes (optionIndexes entity) = _
  rw [Blueprint.addIndexes_eq, Blueprint.addColumns_eq]
  rfl

@[simp] theorem build_table (entity : Entity) : (context.build entity).table = entity.table := by
  rw [build_eq]
  change (context.draftOf entity).blueprint.table = entity.table
  rw [draftOf, Draft.foldl_addParts_blueprint]
  change (context.startDraft entity).blueprint.table = entity.table
  rw [startDraft]
  split <;> rfl

theorem keyMarked_draftOf (entity : Entity) : (context.draftOf entity).KeyMarked := by
  apply Draft.KeyMarked.foldl_addParts
  rw [Draft.KeyMarked, startDraft]
  cases entity.key <;> rfl

theorem draftOf_blueprint (entity : Entity) :
    (context.draftOf entity).blueprint =
      { (context.startDraft entity).blueprint with
        columns := ByKey.addAll Column.name (context.startDraft entity).blueprint.columns
          ((context.propertyParts entity).flatMap fun parts =>
            parts.columns.map (·.under entity.key))
        foreignKeys := ByKey.addAll ForeignKey.name []
          ((context.propertyParts entity).flatMap (·.foreignKeys))
        indexes := ByKey.addAll Index.shape []
          ((context.propertyParts entity).flatMap (·.indexes)) } := by
  rw [draftOf, Draft.foldl_addParts_blueprint, startDraft]
  cases context.keyColumn? entity.key <;> rfl

theorem nodup_startDraft_columns (entity : Entity) :
    (ByKey.keys Column.name (context.startDraft entity).blueprint.columns).Nodup := by
  rw [startDraft]
  cases context.keyColumn? entity.key <;> simp

theorem distinct_draftOf (entity : Entity) : (context.draftOf entity).blueprint.Distinct := by
  rw [draftOf_blueprint]
  exact ⟨ByKey.nodup_addAll _ (context.nodup_startDraft_columns entity) _,
    ByKey.nodup_addAll_nil .., ByKey.nodup_addAll_nil ..⟩

theorem distinct_build (entity : Entity) : (context.build entity).Distinct := by
  have draft := context.distinct_draftOf entity
  have keyed := draft.setPrimaryKey (context.draftOf entity).key
  rw [build_eq]
  exact ⟨ByKey.nodup_addAll _ keyed.columns _, keyed.foreignKeys,
    ByKey.nodup_addAll _ draft.indexes _⟩

theorem build_foreignKeys (entity : Entity) :
    (context.build entity).foreignKeys = ByKey.addAll ForeignKey.name []
      ((context.propertyParts entity).flatMap (·.foreignKeys)) := by
  rw [build_eq, Blueprint.setPrimaryKey, draftOf_blueprint]

theorem build_indexes (entity : Entity) :
    (context.build entity).indexes = ByKey.addAll Index.shape
      (ByKey.addAll Index.shape [] ((context.propertyParts entity).flatMap (·.indexes)))
      (optionIndexes entity) := by
  rw [build_eq, draftOf_blueprint]

theorem mem_keys_build_columns {entity : Entity} {name : String} :
    name ∈ ByKey.keys Column.name (context.build entity).columns ↔
      name ∈ ByKey.keys Column.name (context.draftOf entity).blueprint.columns
        ∨ name ∈ ByKey.keys Column.name (optionColumns entity.options) := by
  rw [build_eq]
  dsimp only
  rw [ByKey.mem_keys_addAll, Blueprint.keys_setPrimaryKey]

end Context

end Migration
