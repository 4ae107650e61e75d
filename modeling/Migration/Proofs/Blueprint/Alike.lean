import Migration.Operation.Basic
import Migration.Proofs.ByKey

namespace Migration

/-! Blueprints up to the order of their lists. Columns and foreign keys are known by their names and
indexes by their shapes; where these are distinct, a blueprint is what it has under each. -/

namespace Blueprint

def foreignKey? (blueprint : Blueprint) (name : String) : Option ForeignKey :=
  ByKey.find? ForeignKey.name blueprint.foreignKeys name

def index? (blueprint : Blueprint) (shape : List String × Bool) : Option Index :=
  ByKey.find? Index.shape blueprint.indexes shape

/-- No two columns or foreign keys of one name, and no two indexes of one shape. -/
structure Distinct (blueprint : Blueprint) : Prop where
  columns : (ByKey.keys Column.name blueprint.columns).Nodup
  foreignKeys : (ByKey.keys ForeignKey.name blueprint.foreignKeys).Nodup
  indexes : (ByKey.keys Index.shape blueprint.indexes).Nodup

instance (blueprint : Blueprint) : Decidable blueprint.Distinct :=
  decidable_of_iff (_ ∧ _ ∧ _)
    ⟨fun ⟨columns, foreignKeys, indexes⟩ => ⟨columns, foreignKeys, indexes⟩,
      fun distinct => ⟨distinct.columns, distinct.foreignKeys, distinct.indexes⟩⟩

/-- The same table, the same key, and the same columns, foreign keys and indexes in some order. -/
structure Alike (left right : Blueprint) : Prop where
  table : left.table = right.table
  primaryKey : left.primaryKey = right.primaryKey
  columns : left.columns.Perm right.columns
  foreignKeys : left.foreignKeys.Perm right.foreignKeys
  indexes : left.indexes.Perm right.indexes

namespace Alike

variable {left middle right : Blueprint}

theorem refl (blueprint : Blueprint) : blueprint.Alike blueprint :=
  ⟨rfl, rfl, .refl _, .refl _, .refl _⟩

theorem symm (alike : left.Alike right) : right.Alike left :=
  ⟨alike.table.symm, alike.primaryKey.symm, alike.columns.symm, alike.foreignKeys.symm,
    alike.indexes.symm⟩

theorem trans (first : left.Alike middle) (second : middle.Alike right) : left.Alike right :=
  ⟨first.table.trans second.table, first.primaryKey.trans second.primaryKey,
    first.columns.trans second.columns, first.foreignKeys.trans second.foreignKeys,
    first.indexes.trans second.indexes⟩

theorem distinct (alike : left.Alike right) (distinct : left.Distinct) : right.Distinct where
  columns := (alike.columns.map _).nodup_iff.mp distinct.columns
  foreignKeys := (alike.foreignKeys.map _).nodup_iff.mp distinct.foreignKeys
  indexes := (alike.indexes.map _).nodup_iff.mp distinct.indexes

/-- Distinct blueprints are alike if they have the same under every name and shape. -/
theorem of_lookups (leftDistinct : left.Distinct) (rightDistinct : right.Distinct)
    (table : left.table = right.table) (primaryKey : left.primaryKey = right.primaryKey)
    (columns : ∀ name, left.column? name = right.column? name)
    (foreignKeys : ∀ name, left.foreignKey? name = right.foreignKey? name)
    (indexes : ∀ shape, left.index? shape = right.index? shape) : left.Alike right where
  table := table
  primaryKey := primaryKey
  columns := ByKey.perm_of_find? _ leftDistinct.columns rightDistinct.columns columns
  foreignKeys :=
    ByKey.perm_of_find? _ leftDistinct.foreignKeys rightDistinct.foreignKeys foreignKeys
  indexes := ByKey.perm_of_find? _ leftDistinct.indexes rightDistinct.indexes indexes

end Alike

/-! ## Single steps as operations on lists by key -/

theorem hasColumn_iff {blueprint : Blueprint} {name : String} :
    blueprint.hasColumn name = true ↔ name ∈ ByKey.keys Column.name blueprint.columns := by
  simp [hasColumn, ByKey.keys]

theorem hasShape_iff {blueprint : Blueprint} {index : Index} :
    blueprint.hasShape index = true ↔
      index.shape ∈ ByKey.keys Index.shape blueprint.indexes := by
  simp [hasShape, ByKey.keys]

theorem addColumn_eq (blueprint : Blueprint) (column : Column) :
    blueprint.addColumn column =
      { blueprint with columns := ByKey.add Column.name blueprint.columns column } := by
  rw [addColumn, hasColumn, ByKey.add]
  split <;> rfl

theorem addForeignKey_eq (blueprint : Blueprint) (foreignKey : ForeignKey) :
    blueprint.addForeignKey foreignKey =
      { blueprint with
        foreignKeys := ByKey.add ForeignKey.name blueprint.foreignKeys foreignKey } := by
  rw [addForeignKey, ByKey.add]
  split <;> rfl

theorem addIndex_eq (blueprint : Blueprint) (index : Index) :
    blueprint.addIndex index =
      { blueprint with indexes := ByKey.add Index.shape blueprint.indexes index } := by
  rw [addIndex, hasShape, ByKey.add]
  split <;> rfl

theorem addColumns_eq (blueprint : Blueprint) (columns : List Column) :
    blueprint.addColumns columns =
      { blueprint with columns := ByKey.addAll Column.name blueprint.columns columns } := by
  induction columns generalizing blueprint with
  | nil => rfl
  | cons column rest induction =>
      change (blueprint.addColumn column).addColumns rest = _
      rw [induction, addColumn_eq]
      rfl

theorem addForeignKeys_eq (blueprint : Blueprint) (foreignKeys : List ForeignKey) :
    blueprint.addForeignKeys foreignKeys =
      { blueprint with
        foreignKeys := ByKey.addAll ForeignKey.name blueprint.foreignKeys foreignKeys } := by
  induction foreignKeys generalizing blueprint with
  | nil => rfl
  | cons foreignKey rest induction =>
      change (blueprint.addForeignKey foreignKey).addForeignKeys rest = _
      rw [induction, addForeignKey_eq]
      rfl

theorem addIndexes_eq (blueprint : Blueprint) (indexes : List Index) :
    blueprint.addIndexes indexes =
      { blueprint with indexes := ByKey.addAll Index.shape blueprint.indexes indexes } := by
  induction indexes generalizing blueprint with
  | nil => rfl
  | cons index rest induction =>
      change (blueprint.addIndex index).addIndexes rest = _
      rw [induction, addIndex_eq]
      rfl

theorem dropColumns_eq (blueprint : Blueprint) (names : List String) :
    blueprint.dropColumns names =
      { blueprint with columns := ByKey.drop Column.name blueprint.columns names } := by
  simp [dropColumns, ByKey.drop]

theorem dropForeignKey_eq (blueprint : Blueprint) (name : String) :
    blueprint.dropForeignKey name =
      { blueprint with
        foreignKeys := ByKey.drop ForeignKey.name blueprint.foreignKeys [name] } := by
  simp [dropForeignKey, ByKey.drop]

theorem dropIndex_eq (blueprint : Blueprint) (columns : List String) (unique : Bool) :
    blueprint.dropIndex columns unique =
      { blueprint with
        indexes := ByKey.drop Index.shape blueprint.indexes [(columns, unique)] } := by
  simp [dropIndex, ByKey.drop]

theorem keys_withoutPrimary (columns : List Column) :
    ByKey.keys Column.name (columns.map (·.withoutPrimary)) = ByKey.keys Column.name columns :=
  List.map_map

theorem keys_setPrimaryKey (blueprint : Blueprint) (key : List String) :
    ByKey.keys Column.name (blueprint.setPrimaryKey key).columns =
      ByKey.keys Column.name blueprint.columns := by
  rw [setPrimaryKey]
  split
  case isTrue => exact keys_withoutPrimary blueprint.columns
  case isFalse => rfl

/-! ## Altering columns -/

/-- The columns after each of `more` has been altered, one after the other. -/
def alterAll (columns more : List Column) : List Column :=
  more.foldl (fun columns column => alterColumn.replaceOrAppend column columns) columns

theorem find?_replaceOrAppend (column : Column) (columns : List Column) (name : String) :
    ByKey.find? Column.name (alterColumn.replaceOrAppend column columns) name =
      if column.name = name then some column else ByKey.find? Column.name columns name := by
  induction columns with
  | nil => simp [alterColumn.replaceOrAppend, ByKey.find?_cons]
  | cons old rest induction =>
      rw [alterColumn.replaceOrAppend]
      split
      case isTrue same =>
        rw [ByKey.find?_cons, ByKey.find?_cons, same]
        split <;> rfl
      case isFalse differs =>
        rw [ByKey.find?_cons, ByKey.find?_cons, induction]
        by_cases atOld : old.name = name
        · have notAtColumn : column.name ≠ name := fun same => differs (atOld.trans same.symm)
          simp [atOld, notAtColumn]
        · simp [atOld]

/-- Of several alterations of one column the last stands. -/
theorem find?_alterAll (columns more : List Column) (name : String) :
    ByKey.find? Column.name (alterAll columns more) name =
      (ByKey.find? Column.name more.reverse name).or (ByKey.find? Column.name columns name) := by
  induction more generalizing columns with
  | nil => simp [alterAll, ByKey.find?]
  | cons column rest induction =>
      change ByKey.find? Column.name
        (alterAll (alterColumn.replaceOrAppend column columns) rest) name = _
      rw [induction, find?_replaceOrAppend, List.reverse_cons, ByKey.find?_append, Option.or_assoc,
        ByKey.find?_cons]
      congr 1
      split <;> simp [ByKey.find?]

theorem mem_keys_alterAll {columns more : List Column} {name : String} :
    name ∈ ByKey.keys Column.name (alterAll columns more) ↔
      name ∈ ByKey.keys Column.name more ∨ name ∈ ByKey.keys Column.name columns := by
  have reversed : name ∈ ByKey.keys Column.name more.reverse ↔
      name ∈ ByKey.keys Column.name more := by
    simp [ByKey.mem_keys]
  have absent : name ∉ ByKey.keys Column.name (alterAll columns more) ↔
      name ∉ ByKey.keys Column.name more ∧ name ∉ ByKey.keys Column.name columns := by
    rw [← reversed, ← ByKey.find?_eq_none, ← ByKey.find?_eq_none, ← ByKey.find?_eq_none,
      find?_alterAll, Option.or_eq_none_iff]
  tauto

theorem mem_alterAll {columns more : List Column}
    (distinct : (ByKey.keys Column.name more).Nodup) {column : Column} (member : column ∈ more) :
    column ∈ alterAll columns more := by
  have single : ByKey.Single Column.name more.reverse :=
    fun left leftMember right rightMember => ByKey.single_of_nodup _ distinct left
      (List.mem_reverse.mp leftMember) right (List.mem_reverse.mp rightMember)
  have found := find?_alterAll columns more column.name
  rw [ByKey.find?_of_mem _ single (List.mem_reverse.mpr member), Option.some_or] at found
  exact (ByKey.mem_of_find? _ found).1

theorem keys_replaceOrAppend (column : Column) (columns : List Column) :
    ByKey.keys Column.name (alterColumn.replaceOrAppend column columns) =
      if column.name ∈ ByKey.keys Column.name columns then ByKey.keys Column.name columns
      else ByKey.keys Column.name columns ++ [column.name] := by
  induction columns with
  | nil => simp [alterColumn.replaceOrAppend]
  | cons old rest induction =>
      rw [alterColumn.replaceOrAppend]
      split
      case isTrue same => simp [same]
      case isFalse differs =>
        rw [ByKey.keys_cons, ByKey.keys_cons, induction]
        by_cases present : column.name ∈ ByKey.keys Column.name rest
        · simp [present]
        · simp [present, Ne.symm differs]

theorem nodup_replaceOrAppend {columns : List Column}
    (distinct : (ByKey.keys Column.name columns).Nodup) (column : Column) :
    (ByKey.keys Column.name (alterColumn.replaceOrAppend column columns)).Nodup := by
  rw [keys_replaceOrAppend]
  split
  case isTrue => exact distinct
  case isFalse absent => exact List.nodup_append_comm.mp (List.nodup_cons.mpr ⟨absent, distinct⟩)

end Blueprint

end Migration
