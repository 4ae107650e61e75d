import Migration.Proofs.Blueprint.PrimaryKey

namespace Migration

/-! Where the columns of a table come from when operations are replayed on it. A column of the
outcome stood there from the start or was laid down by one of the operations, and every operation
after that carried it over. -/

/-- Those of the columns that the blueprint has none of that name for. -/
def Blueprint.missing (blueprint : Blueprint) (columns : List Column) : List Column :=
  columns.filter (!blueprint.hasColumn ·.name)

namespace Operation

/-- The columns that the operation lays down, be it anew or in place of another. -/
def laid (state : Blueprint) : Operation → List Column
  | .createTable created => created.columns
  | .addColumn column => state.missing [column]
  | .alterColumn column => [column]
  | .addTimestamps => state.missing timestampColumns
  | .addSoftDeletes => state.missing [softDeleteColumn]
  | _ => []

/-- What becomes of a column that was there before, unless it is dropped or replaced. -/
def carry? (column : Column) : Operation → Option Column
  | .createTable _ | .dropTable _ => none
  | .alterColumn altered => keptUnless [altered.name]
  | .dropColumn name => keptUnless [name]
  | .renameColumn source target =>
      some (column.renamed (Blueprint.renamed source target column.name))
  | .dropTimestamps => keptUnless ["created_at", "updated_at"]
  | .dropSoftDeletes => keptUnless ["deleted_at"]
  | .addPrimary key => some (if 1 < key.length then column.withoutPrimary else column)
  | _ => some column
where
  keptUnless (gone : List String) : Option Column :=
    if column.name ∈ gone then none else some column

/-- What becomes of a column once all operations are through. -/
def carriedOver? (column : Column) : List Operation → Option Column
  | [] => some column
  | operation :: rest => (operation.carry? column).bind (carriedOver? · rest)

/-- The columns that the operations lay down and leave behind, as they are in the end. -/
def laidDown (state : Blueprint) : List Operation → List Column
  | [] => []
  | operation :: rest =>
      (operation.laid state).filterMap (carriedOver? · rest)
        ++ laidDown (operation.apply state) rest

end Operation

namespace Blueprint

variable {state : Blueprint} {column : Column}

theorem mem_missing {columns : List Column} :
    column ∈ state.missing columns ↔
      column ∈ columns ∧ column.name ∉ ByKey.keys Column.name state.columns := by
  rw [missing, List.mem_filter, Bool.not_eq_true', Bool.eq_false_iff, ne_eq, hasColumn_iff]

theorem mem_addColumns {columns : List Column} (distinct : (ByKey.keys Column.name columns).Nodup) :
    column ∈ (state.addColumns columns).columns ↔
      column ∈ state.columns ∨ column ∈ state.missing columns := by
  rw [addColumns_eq, mem_missing]
  exact ByKey.mem_addAll _ distinct

theorem mem_dropColumns {gone : List String} :
    column ∈ (state.dropColumns gone).columns ↔ column ∈ state.columns ∧ column.name ∉ gone := by
  rw [dropColumns_eq]
  exact ByKey.mem_drop _

theorem mem_alterColumn (distinct : state.Distinct) {altered : Column} :
    column ∈ (state.alterColumn altered).columns ↔
      (column ∈ state.columns ∧ column.name ∉ [altered.name]) ∨ column = altered := by
  have altering := ByKey.single_of_nodup Column.name
    (nodup_replaceOrAppend distinct.columns altered)
  have single := ByKey.single_of_nodup Column.name distinct.columns
  change column ∈ alterColumn.replaceOrAppend altered state.columns ↔ _
  rw [ByKey.mem_iff_find? _ altering, find?_replaceOrAppend, ByKey.mem_iff_find? _ single]
  split
  case isTrue same => simp [same, eq_comm]
  case isFalse differs =>
    have other : column ≠ altered := fun same => differs (congrArg Column.name same).symm
    simp [Ne.symm differs, other]

end Blueprint

namespace Operation

variable {state : Blueprint} {operation : Operation} {operations : List Operation}
  {column : Column}

/-! ## One operation -/

theorem keptUnless_eq_some_iff {gone : List String} {after : Column} :
    carry?.keptUnless column gone = some after ↔ column = after ∧ column.name ∉ gone := by
  rw [carry?.keptUnless]
  split
  case isTrue isGone => simp [isGone]
  case isFalse stays => simp [stays]

theorem exists_keptUnless {columns : List Column} {gone : List String} :
    (∃ before ∈ columns, carry?.keptUnless before gone = some column) ↔
      column ∈ columns ∧ column.name ∉ gone := by
  simp only [keptUnless_eq_some_iff]
  constructor
  · rintro ⟨_, member, rfl, stays⟩
    exact ⟨member, stays⟩
  · rintro ⟨member, stays⟩
    exact ⟨column, member, rfl, stays⟩

/-- The columns after an operation are those that it carries over and those that it lays down. -/
theorem mem_apply_columns (distinct : state.Distinct) :
    column ∈ (operation.apply state).columns ↔
      (∃ before ∈ state.columns, operation.carry? before = some column)
        ∨ column ∈ operation.laid state := by
  have kept : column ∈ state.columns ↔
      (∃ before ∈ state.columns, some before = some column) ∨ column ∈ ([] : List Column) := by
    simp
  have added (columns : List Column) (distinct : (ByKey.keys Column.name columns).Nodup) :
      column ∈ (state.addColumns columns).columns ↔
        (∃ before ∈ state.columns, some before = some column) ∨ column ∈ state.missing columns := by
    rw [Blueprint.mem_addColumns distinct]
    simp
  have dropped (gone : List String) : column ∈ (state.dropColumns gone).columns ↔
      (∃ before ∈ state.columns, carry?.keptUnless before gone = some column)
        ∨ column ∈ ([] : List Column) := by
    rw [Blueprint.mem_dropColumns, exists_keptUnless]
    simp
  cases operation with
  | createTable created => simp [apply, carry?, laid]
  | dropTable table => simp [apply, carry?, laid]
  | addColumn new => exact added [new] (List.nodup_singleton _)
  | addTimestamps => exact added timestampColumns (by decide)
  | addSoftDeletes => exact added [softDeleteColumn] (List.nodup_singleton _)
  | alterColumn altered =>
      rw [apply, Blueprint.mem_alterColumn distinct, ← exists_keptUnless]
      exact or_congr_right List.mem_singleton.symm
  | renameColumn source target =>
      simp [apply, carry?, laid, Blueprint.renameColumn, Column.renamed]
  | dropColumn name => exact dropped [name]
  | dropTimestamps => exact dropped _
  | dropSoftDeletes => exact dropped _
  | addPrimary key =>
      by_cases composite : 1 < key.length <;>
        simp [apply, carry?, laid, Blueprint.setPrimaryKey, composite]
  | addForeignKey foreignKey =>
      rw [apply, Blueprint.addForeignKey_eq]
      exact kept
  | addIndex index =>
      rw [apply, Blueprint.addIndex_eq]
      exact kept
  | _ => exact kept

/-- The operation neither makes the table anew nor drops or sets its key. -/
def KeepsKey : Operation → Prop
  | .createTable _ | .dropTable _ | .dropPrimary _ | .addPrimary _ => False
  | _ => True

section

variable {after : Column}

/-- No column becomes marked as primary by being carried over. -/
theorem isPrimary_of_carry? (carried : operation.carry? column = some after)
    (marked : after.isPrimary = true) : column.isPrimary = true := by
  cases operation with
  | createTable created => contradiction
  | dropTable table => contradiction
  | alterColumn altered => rwa [(keptUnless_eq_some_iff.mp carried).1]
  | dropColumn name => rwa [(keptUnless_eq_some_iff.mp carried).1]
  | dropTimestamps => rwa [(keptUnless_eq_some_iff.mp carried).1]
  | dropSoftDeletes => rwa [(keptUnless_eq_some_iff.mp carried).1]
  | renameColumn source target =>
      rw [← Option.some.inj carried] at marked
      exact marked
  | addPrimary key =>
      rw [← Option.some.inj carried] at marked
      split at marked
      case isTrue =>
        rw [column.isPrimary_withoutPrimary] at marked
        contradiction
      case isFalse => exact marked
  | _ => rwa [Option.some.inj carried]

/-- The key follows the column that it consists of. -/
theorem primaryKey_apply_of_carry? (keeps : operation.KeepsKey)
    (carried : operation.carry? column = some after) (key : state.primaryKey = [column.name]) :
    (operation.apply state).primaryKey = [after.name] := by
  have added (columns : List Column) : (state.addColumns columns).primaryKey = [column.name] := by
    rw [Blueprint.addColumns_eq]
    exact key
  cases operation with
  | createTable created => contradiction
  | dropTable table => contradiction
  | dropPrimary columns => contradiction
  | addPrimary columns => contradiction
  | renameColumn source target =>
      rw [← Option.some.inj carried, apply, Blueprint.renameColumn, key]
      rfl
  | alterColumn altered => rwa [← (keptUnless_eq_some_iff.mp carried).1]
  | dropColumn name => rwa [← (keptUnless_eq_some_iff.mp carried).1]
  | dropTimestamps => rwa [← (keptUnless_eq_some_iff.mp carried).1]
  | dropSoftDeletes => rwa [← (keptUnless_eq_some_iff.mp carried).1]
  | addColumn other => exact Option.some.inj carried ▸ added [other]
  | addTimestamps => exact Option.some.inj carried ▸ added timestampColumns
  | addSoftDeletes => exact Option.some.inj carried ▸ added [softDeleteColumn]
  | addForeignKey foreignKey =>
      rw [apply, Blueprint.addForeignKey_eq, ← Option.some.inj carried]
      exact key
  | addIndex index =>
      rw [apply, Blueprint.addIndex_eq, ← Option.some.inj carried]
      exact key
  | _ => rwa [← Option.some.inj carried]

end

/-! ## All operations -/

theorem mem_replay_columns (distinct : state.Distinct)
    (admissible : AdmissibleRun state operations) :
    column ∈ (replay state operations).columns ↔
      (∃ before ∈ state.columns, carriedOver? before operations = some column)
        ∨ column ∈ laidDown state operations := by
  induction operations generalizing state with
  | nil => simp [carriedOver?, laidDown]
  | cons operation rest induction =>
      rw [replay_cons, induction (distinct.apply admissible.1) admissible.2]
      simp only [mem_apply_columns distinct, carriedOver?, laidDown, List.mem_append,
        List.mem_filterMap, Option.bind_eq_some_iff, ← or_assoc]
      apply or_congr_left
      constructor
      · rintro ⟨middle, ⟨before, member, carried⟩ | laid, later⟩
        · exact .inl ⟨before, member, middle, carried, later⟩
        · exact .inr ⟨middle, laid, later⟩
      · rintro (⟨before, member, middle, carried, later⟩ | ⟨middle, laid, later⟩)
        · exact ⟨middle, .inl ⟨before, member, carried⟩, later⟩
        · exact ⟨middle, .inr laid, later⟩

section

variable {after : Column}

theorem isPrimary_of_carriedOver? (carried : carriedOver? column operations = some after)
    (marked : after.isPrimary = true) : column.isPrimary = true := by
  induction operations generalizing column with
  | nil => rwa [Option.some.inj carried]
  | cons operation rest induction =>
      rcases Option.bind_eq_some_iff.mp carried with ⟨middle, first, later⟩
      exact isPrimary_of_carry? first (induction later)

theorem primaryKey_replay_of_carriedOver? (keeps : ∀ operation ∈ operations, operation.KeepsKey)
    (carried : carriedOver? column operations = some after)
    (key : state.primaryKey = [column.name]) :
    (replay state operations).primaryKey = [after.name] := by
  induction operations generalizing state column with
  | nil => rwa [← Option.some.inj carried]
  | cons operation rest induction =>
      have ⟨firstKeeps, restKeeps⟩ := List.forall_mem_cons.mp keeps
      rcases Option.bind_eq_some_iff.mp carried with ⟨middle, first, later⟩
      exact induction restKeeps later (primaryKey_apply_of_carry? firstKeeps first key)

/-- A marked column that the operations leave behind was marked when it was laid down. -/
theorem exists_laid_of_mem_laidDown (laidDown : column ∈ laidDown state operations)
    (marked : column.isPrimary = true) :
    ∃ operation ∈ operations, ∃ before, ∃ new ∈ operation.laid before, new.isPrimary = true := by
  induction operations generalizing state with
  | nil => contradiction
  | cons operation rest induction =>
      rcases List.mem_append.mp laidDown with here | later
      · rcases List.mem_filterMap.mp here with ⟨new, laid, carried⟩
        exact ⟨operation, List.mem_cons_self, state, new, laid,
          isPrimary_of_carriedOver? carried marked⟩
      · rcases induction later with ⟨other, member, found⟩
        exact ⟨other, List.mem_cons_of_mem _ member, found⟩

end

/-- Operations that keep the key keep the markers right, unless they lay down a marked column and
leave it behind as something else than the whole key. -/
theorem marksKey_replay_iff (distinct : state.Distinct) (marks : state.MarksKey)
    (admissible : AdmissibleRun state operations)
    (keeps : ∀ operation ∈ operations, operation.KeepsKey) :
    (replay state operations).MarksKey ↔
      ∀ column ∈ laidDown state operations, column.isPrimary = true →
        (replay state operations).primaryKey = [column.name] := by
  constructor
  · intro marked column left
    exact marked column ((mem_replay_columns distinct admissible).mpr (.inr left))
  · intro right column member isMarked
    rcases (mem_replay_columns distinct admissible).mp member with ⟨before, stood, carried⟩ | left
    · exact primaryKey_replay_of_carriedOver? keeps carried
        (marks before stood (isPrimary_of_carriedOver? carried isMarked))
    · exact right column left isMarked

end Operation

end Migration
