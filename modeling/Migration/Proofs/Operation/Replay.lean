import Migration.Operation.Group
import Migration.Proofs.Blueprint.Alike

namespace Migration

/-! What the lists of operations of a group do to a blueprint, each list as one equation. -/

namespace Operation

theorem replay_cons (blueprint : Blueprint) (operation : Operation) (rest : List Operation) :
    replay blueprint (operation :: rest) = replay (operation.apply blueprint) rest := rfl

/-! ## Along the way -/

/-- Every operation is as it should be for the blueprint that it is applied to. -/
def Throughout (holds : Blueprint → Operation → Prop) : Blueprint → List Operation → Prop
  | _, [] => True
  | blueprint, operation :: rest =>
      holds blueprint operation ∧ Throughout holds (operation.apply blueprint) rest

section

variable {holds : Blueprint → Operation → Prop} {blueprint : Blueprint}

theorem throughout_append {first second : List Operation} :
    Throughout holds blueprint (first ++ second) ↔
      Throughout holds blueprint first ∧ Throughout holds (replay blueprint first) second := by
  induction first generalizing blueprint with
  | nil => simp [Throughout]
  | cons operation rest induction =>
      rw [List.cons_append, Throughout, Throughout, induction, and_assoc, replay_cons]

theorem throughout_of_forall {operations : List Operation}
    (always : ∀ operation ∈ operations, ∀ blueprint, holds blueprint operation) :
    Throughout holds blueprint operations := by
  induction operations generalizing blueprint with
  | nil => trivial
  | cons operation rest induction =>
      have ⟨first, later⟩ := List.forall_mem_cons.mp always
      exact ⟨first blueprint, induction later⟩

end

instance (holds : Blueprint → Operation → Prop)
    [decidable : ∀ blueprint operation, Decidable (holds blueprint operation)]
    (blueprint : Blueprint) (operations : List Operation) :
    Decidable (Throughout holds blueprint operations) := by
  induction operations generalizing blueprint with
  | nil => exact .isTrue trivial
  | cons operation rest induction => exact @instDecidableAnd _ _ _ (induction _)

/-! ## Lists of operations of one kind -/

theorem replay_addColumns (blueprint : Blueprint) (columns : List Column) :
    replay blueprint (columns.map .addColumn) =
      { blueprint with columns := ByKey.addAll Column.name blueprint.columns columns } := by
  rw [← Blueprint.addColumns_eq]
  exact List.foldl_map

theorem replay_addForeignKeys (blueprint : Blueprint) (foreignKeys : List ForeignKey) :
    replay blueprint (foreignKeys.map .addForeignKey) =
      { blueprint with
        foreignKeys := ByKey.addAll ForeignKey.name blueprint.foreignKeys foreignKeys } := by
  rw [← Blueprint.addForeignKeys_eq]
  exact List.foldl_map

theorem replay_addIndexes (blueprint : Blueprint) (indexes : List Index) :
    replay blueprint (indexes.map .addIndex) =
      { blueprint with indexes := ByKey.addAll Index.shape blueprint.indexes indexes } := by
  rw [← Blueprint.addIndexes_eq]
  exact List.foldl_map

theorem replay_alterColumns (blueprint : Blueprint) (columns : List Column) :
    replay blueprint (columns.map .alterColumn) =
      { blueprint with columns := Blueprint.alterAll blueprint.columns columns } := by
  induction columns generalizing blueprint with
  | nil => rfl
  | cons column rest induction =>
      rw [List.map_cons, replay_cons, induction]
      rfl

theorem replay_dropColumns (blueprint : Blueprint) (columns : List Column) :
    replay blueprint (columns.map fun column => .dropColumn column.name) =
      { blueprint with
        columns := ByKey.drop Column.name blueprint.columns (ByKey.keys Column.name columns) } := by
  induction columns generalizing blueprint with
  | nil => simp
  | cons column rest induction =>
      rw [List.map_cons, replay_cons, induction, apply, Blueprint.dropColumns_eq,
        ByKey.drop_drop]
      rfl

theorem replay_dropForeignKeys (blueprint : Blueprint) (foreignKeys : List ForeignKey) :
    replay blueprint (foreignKeys.map (·.dropping)) =
      { blueprint with
        foreignKeys := ByKey.drop ForeignKey.name blueprint.foreignKeys
          (ByKey.keys ForeignKey.name foreignKeys) } := by
  induction foreignKeys generalizing blueprint with
  | nil => simp
  | cons foreignKey rest induction =>
      rw [List.map_cons, replay_cons, induction, ForeignKey.dropping, apply,
        Blueprint.dropForeignKey_eq, ByKey.drop_drop]
      rfl

theorem replay_dropIndexes (blueprint : Blueprint) (indexes : List Index) :
    replay blueprint (indexes.map (·.dropping)) =
      { blueprint with
        indexes := ByKey.drop Index.shape blueprint.indexes
          (ByKey.keys Index.shape indexes) } := by
  induction indexes generalizing blueprint with
  | nil => simp
  | cons index rest induction =>
      rw [List.map_cons, replay_cons, induction, Index.dropping, apply, Blueprint.dropIndex_eq,
        ByKey.drop_drop]
      rfl

/-! ## Parts -/

theorem replay_creating (blueprint : Blueprint) (parts : Parts) :
    replay blueprint parts.creating =
      { blueprint with
        columns := ByKey.addAll Column.name blueprint.columns parts.columns
        foreignKeys := ByKey.addAll ForeignKey.name blueprint.foreignKeys parts.foreignKeys
        indexes := ByKey.addAll Index.shape blueprint.indexes parts.indexes } := by
  rw [Parts.creating, replay_append, replay_append, replay_addColumns, replay_addForeignKeys,
    replay_addIndexes]

theorem replay_dropping (blueprint : Blueprint) (parts : Parts) :
    replay blueprint parts.dropping =
      { blueprint with
        columns := ByKey.drop Column.name blueprint.columns
          (ByKey.keys Column.name parts.columns)
        foreignKeys := ByKey.drop ForeignKey.name blueprint.foreignKeys
          (ByKey.keys ForeignKey.name parts.foreignKeys)
        indexes := ByKey.drop Index.shape blueprint.indexes
          (ByKey.keys Index.shape parts.indexes) } := by
  rw [Parts.dropping, replay_append, replay_append, replay_dropIndexes, replay_dropForeignKeys,
    replay_dropColumns, ByKey.drop_keys_reverse, ByKey.drop_keys_reverse, ByKey.drop_keys_reverse]

/-- The columns of the old parts whose names the new ones do not have. -/
def staleColumns (old new : Parts) : List Column :=
  old.columns.filter fun column => !new.columns.any (·.name = column.name)

theorem mem_keys_staleColumns {old new : Parts} {name : String} :
    name ∈ ByKey.keys Column.name (staleColumns old new) ↔
      name ∈ ByKey.keys Column.name old.columns ∧ name ∉ ByKey.keys Column.name new.columns := by
  simp only [ByKey.mem_keys, staleColumns, List.mem_filter]
  constructor
  · rintro ⟨column, ⟨member, unnamed⟩, rfl⟩
    exact ⟨⟨column, member, rfl⟩, by simpa using unnamed⟩
  · rintro ⟨⟨column, member, rfl⟩, unnamed⟩
    exact ⟨column, ⟨member, by simpa using unnamed⟩, rfl⟩

theorem replay_reshaping (blueprint : Blueprint) (old new : Parts) :
    replay blueprint (old.reshaping new) =
      { blueprint with
        columns := Blueprint.alterAll
          (ByKey.drop Column.name blueprint.columns
            (ByKey.keys Column.name (staleColumns old new))) new.columns
        foreignKeys := ByKey.exchange ForeignKey.name old.foreignKeys new.foreignKeys
          blueprint.foreignKeys
        indexes := ByKey.exchange Index.shape old.indexes new.indexes blueprint.indexes } := by
  simp only [Parts.reshaping, replay_append, replay_dropIndexes, replay_dropForeignKeys,
    replay_dropColumns, replay_alterColumns, replay_addForeignKeys, replay_addIndexes,
    List.filter_reverse, ByKey.drop_keys_reverse]
  rfl

end Operation

end Migration
