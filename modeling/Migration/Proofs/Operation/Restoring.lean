import Migration.Proofs.Operation.Distinct

namespace Migration

/-! When one list of operations takes back another. The way back starts from any blueprint that is
like the outcome of the way forward, for its own outcome is known up to order only. -/

/-! ## Operations do not see the order -/

namespace Blueprint.Alike

variable {left right : Blueprint}

theorem addColumns (alike : left.Alike right) (distinct : left.Distinct) (columns : List Column) :
    (left.addColumns columns).Alike (right.addColumns columns) := by
  rw [addColumns_eq, addColumns_eq]
  exact { alike with columns := ByKey.perm_addAll _ distinct.columns alike.columns columns }

theorem dropColumns (alike : left.Alike right) (names : List String) :
    (left.dropColumns names).Alike (right.dropColumns names) :=
  { alike with columns := alike.columns.filter _ }

theorem renameColumn (alike : left.Alike right) (source target : String) :
    (left.renameColumn source target).Alike (right.renameColumn source target) where
  table := alike.table
  primaryKey := congrArg (List.map (renamed source target)) alike.primaryKey
  columns := alike.columns.map _
  foreignKeys := alike.foreignKeys.map _
  indexes := alike.indexes.map _

theorem apply (alike : left.Alike right) (distinct : left.Distinct) (operation : Operation) :
    (operation.apply left).Alike (operation.apply right) := by
  cases operation with
  | createTable created => exact .refl created
  | dropTable table => exact .refl _
  | addColumn column => exact alike.addColumns distinct [column]
  | alterColumn column =>
      have columns : (alterColumn.replaceOrAppend column left.columns).Perm
          (alterColumn.replaceOrAppend column right.columns) := by
        apply ByKey.perm_of_find? Column.name (nodup_replaceOrAppend distinct.columns column)
          (nodup_replaceOrAppend (alike.distinct distinct).columns column)
        intro name
        rw [find?_replaceOrAppend, find?_replaceOrAppend,
          ByKey.find?_of_perm _ distinct.columns alike.columns]
      exact { alike with columns := columns }
  | dropColumn column => exact alike.dropColumns [column]
  | renameColumn source target => exact alike.renameColumn source target
  | addForeignKey foreignKey =>
      rw [Operation.apply, Operation.apply, addForeignKey_eq, addForeignKey_eq]
      exact { alike with
        foreignKeys := ByKey.perm_add _ distinct.foreignKeys alike.foreignKeys foreignKey }
  | dropForeignKey name columns => exact { alike with foreignKeys := alike.foreignKeys.filter _ }
  | addIndex index =>
      rw [Operation.apply, Operation.apply, addIndex_eq, addIndex_eq]
      exact { alike with indexes := ByKey.perm_add _ distinct.indexes alike.indexes index }
  | dropIndex name columns unique => exact { alike with indexes := alike.indexes.filter _ }
  | addTimestamps => exact alike.addColumns distinct timestampColumns
  | dropTimestamps => exact alike.dropColumns ["created_at", "updated_at"]
  | addSoftDeletes => exact alike.addColumns distinct [softDeleteColumn]
  | dropSoftDeletes => exact alike.dropColumns ["deleted_at"]
  | dropPrimary columns => exact { alike with primaryKey := rfl }
  | addPrimary columns =>
      have stripped : (left.setPrimaryKey columns).columns.Perm
          (right.setPrimaryKey columns).columns := by
        unfold setPrimaryKey
        split
        case isTrue => exact alike.columns.map _
        case isFalse => exact alike.columns
      exact { alike with primaryKey := rfl, columns := stripped }

theorem replay (alike : left.Alike right) (distinct : left.Distinct) {operations : List Operation}
    (admissible : Operation.AdmissibleRun left operations) :
    (Operation.replay left operations).Alike (Operation.replay right operations) := by
  induction operations generalizing left right with
  | nil => exact alike
  | cons operation rest induction =>
      exact induction (alike.apply distinct operation) (distinct.apply admissible.1) admissible.2

end Blueprint.Alike

/-! ## Taking back -/

namespace Operation

def Restores (forward backward : List Operation) (start : Blueprint) : Prop :=
  ∀ outcome : Blueprint, outcome.Alike (replay start forward) →
    (replay outcome backward).Alike start

namespace Restores

variable {start : Blueprint}

theorem nil (start : Blueprint) : Restores [] [] start :=
  fun _ alike => alike

/-- What was done last is taken back first. -/
theorem append {forward backward nextForward nextBackward : List Operation}
    (first : Restores forward backward start)
    (next : Restores nextForward nextBackward (replay start forward)) :
    Restores (forward ++ nextForward) (nextBackward ++ backward) start := by
  intro outcome alike
  rw [replay_append] at alike ⊢
  exact first _ (next outcome alike)

theorem replay_alike {forward backward : List Operation}
    (restores : Restores forward backward start) :
    (replay (replay start forward) backward).Alike start :=
  restores _ (.refl _)

/-- It is enough to take back the outcome itself. -/
theorem of_replay_alike {forward backward : List Operation}
    (distinct : (replay start forward).Distinct)
    (admissible : ∀ blueprint, AdmissibleRun blueprint backward)
    (alike : (replay (replay start forward) backward).Alike start) :
    Restores forward backward start := by
  intro outcome outcomeAlike
  exact (outcomeAlike.replay (outcomeAlike.symm.distinct distinct) (admissible outcome)).trans alike

end Restores

end Operation

/-! ## Parts -/

namespace Parts

/-- All of the parts are in the blueprint just as they are. -/
structure Present (parts : Parts) (blueprint : Blueprint) : Prop where
  columns : ∀ column ∈ parts.columns, column ∈ blueprint.columns
  foreignKeys : ∀ foreignKey ∈ parts.foreignKeys, foreignKey ∈ blueprint.foreignKeys
  indexes : ∀ index ∈ parts.indexes, index ∈ blueprint.indexes

/-- The blueprint has nothing under the names and shapes of the parts. -/
structure Free (parts : Parts) (blueprint : Blueprint) : Prop where
  columns : ∀ column ∈ parts.columns, blueprint.column? column.name = none
  foreignKeys : ∀ foreignKey ∈ parts.foreignKeys, blueprint.foreignKey? foreignKey.name = none
  indexes : ∀ index ∈ parts.indexes, blueprint.index? index.shape = none

instance (parts : Parts) (blueprint : Blueprint) : Decidable (parts.Present blueprint) :=
  decidable_of_iff (_ ∧ _ ∧ _)
    ⟨fun ⟨columns, foreignKeys, indexes⟩ => ⟨columns, foreignKeys, indexes⟩,
      fun present => ⟨present.columns, present.foreignKeys, present.indexes⟩⟩

instance (parts : Parts) (blueprint : Blueprint) : Decidable (parts.Free blueprint) :=
  decidable_of_iff (_ ∧ _ ∧ _)
    ⟨fun ⟨columns, foreignKeys, indexes⟩ => ⟨columns, foreignKeys, indexes⟩,
      fun free => ⟨free.columns, free.foreignKeys, free.indexes⟩⟩

/-- No two different foreign keys have one name, and no two different indexes one shape. -/
structure Unambiguous (parts : Parts) : Prop where
  foreignKeys : ByKey.Single ForeignKey.name parts.foreignKeys
  indexes : ByKey.Single Index.shape parts.indexes

end Parts

namespace Operation

open Blueprint (Alike)

variable {start : Blueprint}

theorem restores_creating (distinct : start.Distinct) {parts : Parts} (free : parts.Free start) :
    Restores parts.creating parts.dropping start := by
  apply Restores.of_replay_alike (distinct.creating parts) (admissible_dropping parts)
  rw [replay_dropping, replay_creating]
  dsimp only
  rw [ByKey.drop_addAll_of_free _ free.columns, ByKey.drop_addAll_of_free _ free.foreignKeys,
    ByKey.drop_addAll_of_free _ free.indexes]
  exact Alike.refl start

theorem restores_dropping (distinct : start.Distinct) {parts : Parts}
    (present : parts.Present start) : Restores parts.dropping parts.creating start := by
  apply Restores.of_replay_alike (distinct.dropping parts) (admissible_creating parts)
  apply Alike.of_lookups ((distinct.dropping parts).creating parts) distinct <;>
    rw [replay_creating, replay_dropping]
  · exact ByKey.find?_addAll_drop _ distinct.columns present.columns
  · exact ByKey.find?_addAll_drop _ distinct.foreignKeys present.foreignKeys
  · exact ByKey.find?_addAll_drop _ distinct.indexes present.indexes

/-- Columns that are altered and dropped come back by altering and dropping the other way. -/
theorem find?_reshaped_columns {old new : Parts} (distinct : start.Distinct)
    (present : ∀ column ∈ old.columns, column ∈ start.columns)
    (free : ∀ column ∈ new.columns, ByKey.find? Column.name (ByKey.drop Column.name start.columns
      (ByKey.keys Column.name old.columns)) column.name = none) (name : String) :
    ByKey.find? Column.name
        (Blueprint.alterAll
          (ByKey.drop Column.name
            (Blueprint.alterAll
              (ByKey.drop Column.name start.columns
                (ByKey.keys Column.name (staleColumns old new))) new.columns)
            (ByKey.keys Column.name (staleColumns new old))) old.columns) name =
      ByKey.find? Column.name start.columns name := by
  rw [Blueprint.find?_alterAll, ByKey.find?_drop, Blueprint.find?_alterAll, ByKey.find?_drop]
  cases found : ByKey.find? Column.name old.columns.reverse name with
  | some column =>
      have ⟨member, atName⟩ := ByKey.mem_of_find? _ found
      have stood := present column (List.mem_reverse.mp member)
      rw [← atName, ByKey.find?_of_mem _ (ByKey.single_of_nodup _ distinct.columns) stood,
        Option.some_or]
  | none =>
      have notOld : name ∉ ByKey.keys Column.name old.columns := by
        simpa [ByKey.mem_keys] using (ByKey.find?_eq_none _).mp found
      rw [Option.none_or]
      simp only [mem_keys_staleColumns, notOld, not_false_eq_true, and_true, false_and, if_false]
      by_cases isNew : name ∈ ByKey.keys Column.name new.columns
      · rw [if_pos isNew]
        rcases (ByKey.mem_keys _).mp isNew with ⟨column, member, rfl⟩
        have vacant := ByKey.mem_or_free_of_drop _ (free column member)
        exact (vacant.resolve_left notOld).symm
      · have notReversed : name ∉ ByKey.keys Column.name new.columns.reverse := by
          simpa [ByKey.mem_keys] using isNew
        rw [if_neg isNew, (ByKey.find?_eq_none _).mpr notReversed, Option.none_or]

/-- Parts that are there give way to parts that clash with nothing else, and come back. -/
theorem restores_reshaping (distinct : start.Distinct) {old new : Parts}
    (present : old.Present start) (free : new.Free (replay start old.dropping))
    (unambiguous : new.Unambiguous) :
    Restores (old.reshaping new) (new.reshaping old) start := by
  rw [replay_dropping] at free
  apply Restores.of_replay_alike (distinct.reshaping old new) (admissible_reshaping new old)
  apply Alike.of_lookups ((distinct.reshaping old new).reshaping new old) distinct <;>
    rw [replay_reshaping, replay_reshaping]
  · exact find?_reshaped_columns distinct present.columns free.columns
  · exact ByKey.find?_exchange_exchange _ distinct.foreignKeys present.foreignKeys
      (fun foreignKey member => ByKey.mem_or_free_of_drop _ (free.foreignKeys foreignKey member))
      unambiguous.foreignKeys
  · exact ByKey.find?_exchange_exchange _ distinct.indexes present.indexes
      (fun index member => ByKey.mem_or_free_of_drop _ (free.indexes index member))
      unambiguous.indexes

end Operation

end Migration
