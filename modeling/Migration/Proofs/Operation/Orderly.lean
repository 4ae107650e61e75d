import Migration.Proofs.Blueprint.PartColumns

namespace Migration

/-! Columns and the constraints over them. A constraint is to be created when its columns are
there, and a column is to be dropped when no constraint is over it any more. -/

namespace Blueprint

/-- No foreign key and no index is over the column. -/
def Unnamed (blueprint : Blueprint) (name : String) : Prop :=
  (∀ foreignKey ∈ blueprint.foreignKeys, name ∉ foreignKey.columns)
    ∧ ∀ index ∈ blueprint.indexes, name ∉ index.columns

instance (blueprint : Blueprint) (name : String) : Decidable (blueprint.Unnamed name) :=
  inferInstanceAs (Decidable (_ ∧ _))

def HasColumns (blueprint : Blueprint) (names : List String) : Prop :=
  ∀ name ∈ names, name ∈ ByKey.keys Column.name blueprint.columns

instance (blueprint : Blueprint) (names : List String) : Decidable (blueprint.HasColumns names) :=
  inferInstanceAs (Decidable (∀ _ ∈ _, _))

/-- Every constraint is over columns that the blueprint has. -/
structure Grounded (blueprint : Blueprint) : Prop where
  foreignKeys : ∀ foreignKey ∈ blueprint.foreignKeys, blueprint.HasColumns foreignKey.columns
  indexes : ∀ index ∈ blueprint.indexes, blueprint.HasColumns index.columns

instance (blueprint : Blueprint) : Decidable blueprint.Grounded :=
  decidable_of_iff (_ ∧ _) ⟨fun ⟨foreignKeys, indexes⟩ => ⟨foreignKeys, indexes⟩,
    fun grounded => ⟨grounded.foreignKeys, grounded.indexes⟩⟩

/-- The blueprint without the constraints of the old parts that the new ones do not have. -/
def withoutStale (blueprint : Blueprint) (old new : Parts) : Blueprint :=
  { blueprint with
    foreignKeys := ByKey.drop ForeignKey.name blueprint.foreignKeys
      (ByKey.keys ForeignKey.name (ByKey.onlyIn old.foreignKeys new.foreignKeys))
    indexes := ByKey.drop Index.shape blueprint.indexes
      (ByKey.keys Index.shape (ByKey.onlyIn old.indexes new.indexes)) }

/-- Of the constraints that stay, none is over a column that goes with the old parts. -/
def Sheds (blueprint : Blueprint) (old new : Parts) : Prop :=
  ∀ column ∈ Operation.staleColumns old new, (blueprint.withoutStale old new).Unnamed column.name

instance (blueprint : Blueprint) (old new : Parts) : Decidable (blueprint.Sheds old new) :=
  inferInstanceAs (Decidable (∀ _ ∈ _, _))

end Blueprint

namespace Operation

def Orderly (blueprint : Blueprint) : Operation → Prop
  | .addForeignKey foreignKey => blueprint.HasColumns foreignKey.columns
  | .addIndex index => blueprint.HasColumns index.columns
  | .dropColumn column => blueprint.Unnamed column
  | _ => True

instance (blueprint : Blueprint) (operation : Operation) :
    Decidable (operation.Orderly blueprint) :=
  match operation with
  | .addForeignKey foreignKey =>
      inferInstanceAs (Decidable (blueprint.HasColumns foreignKey.columns))
  | .addIndex index => inferInstanceAs (Decidable (blueprint.HasColumns index.columns))
  | .dropColumn column => inferInstanceAs (Decidable (blueprint.Unnamed column))
  | .createTable _ | .dropTable _ | .addColumn _ | .alterColumn _ | .renameColumn _ _
  | .dropForeignKey _ _ | .dropIndex _ _ _ | .addTimestamps | .dropTimestamps | .addSoftDeletes
  | .dropSoftDeletes | .dropPrimary _ | .addPrimary _ => .isTrue trivial

def OrderlyRun : Blueprint → List Operation → Prop :=
  Throughout Orderly

instance (blueprint : Blueprint) (operations : List Operation) :
    Decidable (OrderlyRun blueprint operations) :=
  inferInstanceAs (Decidable (Throughout Orderly blueprint operations))

/-! ## Lists of operations of one kind -/

section

variable {blueprint : Blueprint}

/-- Of what is neither the creation of a constraint nor the drop of a column nothing is asked. -/
theorem orderlyRun_map {α : Type} {operation : α → Operation} {values : List α}
    (always : ∀ value state, (operation value).Orderly state) :
    OrderlyRun blueprint (values.map operation) := by
  apply throughout_of_forall
  intro given member state
  rcases List.mem_map.mp member with ⟨value, _, rfl⟩
  exact always value state

/-- To drop a column leaves the constraints as they are. -/
theorem orderlyRun_dropColumns {columns : List Column} :
    OrderlyRun blueprint (columns.map fun column => .dropColumn column.name) ↔
      ∀ column ∈ columns, blueprint.Unnamed column.name := by
  induction columns generalizing blueprint with
  | nil => simp [OrderlyRun, Throughout]
  | cons column rest induction =>
      rw [List.forall_mem_cons]
      exact and_congr_right fun _ => induction

theorem orderlyRun_addForeignKeys {foreignKeys : List ForeignKey} :
    OrderlyRun blueprint (foreignKeys.map .addForeignKey) ↔
      ∀ foreignKey ∈ foreignKeys, blueprint.HasColumns foreignKey.columns := by
  induction foreignKeys generalizing blueprint with
  | nil => simp [OrderlyRun, Throughout]
  | cons foreignKey rest induction =>
      rw [List.forall_mem_cons]
      refine and_congr_right fun _ => ?_
      change OrderlyRun (blueprint.addForeignKey foreignKey) _ ↔ _
      rw [Blueprint.addForeignKey_eq, induction]
      rfl

theorem orderlyRun_addIndexes {indexes : List Index} :
    OrderlyRun blueprint (indexes.map .addIndex) ↔
      ∀ index ∈ indexes, blueprint.HasColumns index.columns := by
  induction indexes generalizing blueprint with
  | nil => simp [OrderlyRun, Throughout]
  | cons index rest induction =>
      rw [List.forall_mem_cons]
      refine and_congr_right fun _ => ?_
      change OrderlyRun (blueprint.addIndex index) _ ↔ _
      rw [Blueprint.addIndex_eq, induction]
      rfl

/-! ## Parts -/

/-- Parts bring the columns of their constraints along. -/
theorem orderlyRun_creating {parts : Parts} (grounded : parts.Grounded) :
    OrderlyRun blueprint parts.creating := by
  have present (name : String) (named : name ∈ ByKey.keys Column.name parts.columns) :
      name ∈ ByKey.keys Column.name
        (ByKey.addAll Column.name blueprint.columns parts.columns) :=
    (ByKey.mem_keys_addAll ..).mpr (.inr named)
  rw [Parts.creating, OrderlyRun, throughout_append, throughout_append, replay_append,
    replay_addColumns, replay_addForeignKeys]
  refine ⟨⟨orderlyRun_map fun _ _ => trivial, ?_⟩, ?_⟩
  · apply orderlyRun_addForeignKeys.mpr
    intro foreignKey member name named
    exact present name (grounded.foreignKeys foreignKey member name named)
  · apply orderlyRun_addIndexes.mpr
    intro index member name named
    exact present name (grounded.indexes index member name named)

/-- Constraints that change are out of the way before any column is dropped, and the new ones come
when their columns are there. -/
theorem orderlyRun_reshaping {old new : Parts} (grounded : new.Grounded) :
    OrderlyRun blueprint (old.reshaping new) ↔ blueprint.Sheds old new := by
  have present (columns : List Column) (name : String)
      (named : name ∈ ByKey.keys Column.name new.columns) :
      name ∈ ByKey.keys Column.name (Blueprint.alterAll columns new.columns) := by
    exact Blueprint.mem_keys_alterAll.mpr (.inl named)
  simp only [Parts.reshaping, OrderlyRun, throughout_append, replay_append, replay_dropIndexes,
    replay_dropForeignKeys, replay_dropColumns, replay_alterColumns, replay_addForeignKeys,
    List.filter_reverse, ByKey.drop_keys_reverse]
  constructor
  · rintro ⟨⟨⟨⟨_, columns⟩, _⟩, _⟩, _⟩ column member
    exact orderlyRun_dropColumns.mp columns column (List.mem_reverse.mpr member)
  · intro sheds
    refine ⟨⟨⟨⟨⟨orderlyRun_map fun _ _ => trivial, orderlyRun_map fun _ _ => trivial⟩, ?columns⟩,
      orderlyRun_map fun _ _ => trivial⟩, ?foreignKeys⟩, ?indexes⟩
    case columns =>
      apply orderlyRun_dropColumns.mpr
      intro column member
      exact sheds column (List.mem_reverse.mp member)
    case foreignKeys =>
      apply orderlyRun_addForeignKeys.mpr
      intro foreignKey member name named
      exact present _ name
        (grounded.foreignKeys foreignKey (List.mem_filter.mp member).1 name named)
    case indexes =>
      apply orderlyRun_addIndexes.mpr
      intro index member name named
      exact present _ name (grounded.indexes index (List.mem_filter.mp member).1 name named)

theorem reshaping_nil (parts : Parts) : parts.reshaping {} = parts.dropping := by
  simp [Parts.reshaping, Parts.dropping]

theorem orderlyRun_dropping {parts : Parts} :
    OrderlyRun blueprint parts.dropping ↔ blueprint.Sheds parts {} := by
  rw [← reshaping_nil]
  exact orderlyRun_reshaping ⟨by simp, by simp⟩

end

/-- Of the operation nothing is asked, though it may take a column from under a constraint. -/
def Unguarded : Operation → Prop
  | .createTable _ | .dropTimestamps | .dropSoftDeletes => True
  | _ => False

end Operation

/-! ## What an orderly run keeps -/

namespace Blueprint

variable {blueprint : Blueprint}

/-- With more columns and fewer constraints a blueprint is as well founded as before. -/
theorem Grounded.mono {other : Blueprint} (grounded : blueprint.Grounded)
    (columns : ByKey.keys Column.name blueprint.columns ⊆ ByKey.keys Column.name other.columns)
    (foreignKeys : other.foreignKeys ⊆ blueprint.foreignKeys)
    (indexes : other.indexes ⊆ blueprint.indexes) : other.Grounded where
  foreignKeys foreignKey member name named :=
    columns (grounded.foreignKeys foreignKey (foreignKeys member) name named)
  indexes index member name named :=
    columns (grounded.indexes index (indexes member) name named)

theorem Grounded.addColumns (grounded : blueprint.Grounded) (columns : List Column) :
    (blueprint.addColumns columns).Grounded := by
  rw [addColumns_eq]
  refine grounded.mono ?_ (List.Subset.refl _) (List.Subset.refl _)
  exact List.map_subset _ (ByKey.subset_addAll ..)

theorem Grounded.renameColumn (grounded : blueprint.Grounded) (source target : String) :
    (blueprint.renameColumn source target).Grounded := by
  have moved (names : List String) (present : blueprint.HasColumns names) :
      (blueprint.renameColumn source target).HasColumns (names.map (renamed source target)) := by
    intro name named
    rcases List.mem_map.mp named with ⟨before, beforeNamed, rfl⟩
    rcases (ByKey.mem_keys _).mp (present before beforeNamed) with ⟨column, member, rfl⟩
    exact (ByKey.mem_keys _).mpr ⟨_, List.mem_map_of_mem member, rfl⟩
  constructor
  · intro foreignKey member
    rcases List.mem_map.mp member with ⟨before, beforeMember, rfl⟩
    exact moved before.columns (grounded.foreignKeys before beforeMember)
  · intro index member
    rcases List.mem_map.mp member with ⟨before, beforeMember, rfl⟩
    exact moved before.columns (grounded.indexes before beforeMember)

theorem Grounded.apply (grounded : blueprint.Grounded) {operation : Operation}
    (orderly : operation.Orderly blueprint) (guarded : ¬operation.Unguarded) :
    (operation.apply blueprint).Grounded := by
  cases operation with
  | createTable created => exact absurd trivial guarded
  | dropTable table => exact ⟨by simp [Operation.apply], by simp [Operation.apply]⟩
  | addColumn column => exact grounded.addColumns [column]
  | alterColumn column =>
      refine grounded.mono ?_ (List.Subset.refl _) (List.Subset.refl _)
      intro name member
      change name ∈ ByKey.keys Column.name (alterAll blueprint.columns [column])
      exact mem_keys_alterAll.mpr (.inr member)
  | dropColumn column =>
      have kept {names : List String} (present : blueprint.HasColumns names)
          (other : column ∉ names) : (blueprint.dropColumns [column]).HasColumns names := by
        intro name named
        rw [dropColumns_eq]
        have differs : name ∉ [column] := by
          rw [List.mem_singleton]
          rintro rfl
          exact other named
        exact (ByKey.mem_keys_drop _).mpr ⟨present name named, differs⟩
      exact ⟨fun foreignKey member =>
          kept (grounded.foreignKeys foreignKey member) (orderly.1 foreignKey member),
        fun index member => kept (grounded.indexes index member) (orderly.2 index member)⟩
  | renameColumn source target => exact grounded.renameColumn source target
  | addForeignKey foreignKey =>
      rw [Operation.apply, addForeignKey_eq]
      refine ⟨fun other member => ?_, grounded.indexes⟩
      have either := ByKey.addAll_subset ForeignKey.name blueprint.foreignKeys [foreignKey] member
      rcases List.mem_append.mp either with before | added
      · exact grounded.foreignKeys other before
      · rw [List.mem_singleton.mp added]
        exact orderly
  | dropForeignKey name columns =>
      exact grounded.mono (List.Subset.refl _) List.filter_sublist.subset (List.Subset.refl _)
  | addIndex index =>
      rw [Operation.apply, addIndex_eq]
      refine ⟨grounded.foreignKeys, fun other member => ?_⟩
      have either := ByKey.addAll_subset Index.shape blueprint.indexes [index] member
      rcases List.mem_append.mp either with before | added
      · exact grounded.indexes other before
      · rw [List.mem_singleton.mp added]
        exact orderly
  | dropIndex name columns unique =>
      exact grounded.mono (List.Subset.refl _) (List.Subset.refl _) List.filter_sublist.subset
  | addTimestamps => exact grounded.addColumns timestampColumns
  | dropTimestamps => exact absurd trivial guarded
  | addSoftDeletes => exact grounded.addColumns [softDeleteColumn]
  | dropSoftDeletes => exact absurd trivial guarded
  | dropPrimary columns => exact ⟨grounded.foreignKeys, grounded.indexes⟩
  | addPrimary columns =>
      refine grounded.mono ?_ (List.Subset.refl _) (List.Subset.refl _)
      rw [Operation.apply, keys_setPrimaryKey]
      exact List.Subset.refl _

/-- Where constraints come after their columns and go before them, none is ever left without a
column. -/
theorem Grounded.replay (grounded : blueprint.Grounded) {operations : List Operation}
    (orderly : Operation.OrderlyRun blueprint operations)
    (guarded : ∀ operation ∈ operations, ¬operation.Unguarded) :
    (Operation.replay blueprint operations).Grounded := by
  induction operations generalizing blueprint with
  | nil => exact grounded
  | cons operation rest induction =>
      have ⟨first, later⟩ := List.forall_mem_cons.mp guarded
      exact induction (grounded.apply orderly.1 first) orderly.2 later

/-- What takes the place of old parts can be dropped again, for constraints that were there before
are over columns that were there before. -/
theorem Grounded.sheds (grounded : blueprint.Grounded) {outcome : Blueprint} {old new : Parts}
    (foreignKeys : outcome.foreignKeys =
      ByKey.exchange ForeignKey.name old.foreignKeys new.foreignKeys blueprint.foreignKeys)
    (indexes : outcome.indexes =
      ByKey.exchange Index.shape old.indexes new.indexes blueprint.indexes)
    (unknown : ∀ column ∈ Operation.staleColumns new old,
      column.name ∉ ByKey.keys Column.name blueprint.columns) : outcome.Sheds new old := by
  intro column stale
  constructor
  · intro foreignKey member named
    have ⟨stays, other⟩ := (ByKey.mem_drop _).mp member
    rw [foreignKeys] at stays
    have before := ByKey.mem_of_mem_exchange _ stays other
    exact unknown column stale (grounded.foreignKeys foreignKey before column.name named)
  · intro index member named
    have ⟨stays, other⟩ := (ByKey.mem_drop _).mp member
    rw [indexes] at stays
    have before := ByKey.mem_of_mem_exchange _ stays other
    exact unknown column stale (grounded.indexes index before column.name named)

theorem Grounded.sheds_created (grounded : blueprint.Grounded) {parts : Parts}
    (free : ∀ column ∈ parts.columns, blueprint.column? column.name = none) :
    (Operation.replay blueprint parts.creating).Sheds parts {} := by
  rw [Operation.replay_creating]
  refine grounded.sheds (ByKey.exchange_nil ..).symm (ByKey.exchange_nil ..).symm ?_
  intro column stale
  exact (ByKey.find?_eq_none _).mp (free column (List.mem_filter.mp stale).1)

theorem Grounded.sheds_reshaped (grounded : blueprint.Grounded) {old new : Parts}
    (free : new.Free (Operation.replay blueprint old.dropping)) :
    (Operation.replay blueprint (old.reshaping new)).Sheds new old := by
  rw [Operation.replay_dropping] at free
  rw [Operation.replay_reshaping]
  refine grounded.sheds rfl rfl ?_
  intro column stale
  have ⟨_, notOld⟩ := Operation.mem_keys_staleColumns.mp (ByKey.mem_keys_of_mem Column.name stale)
  have vacant := ByKey.mem_or_free_of_drop _ (free.columns column (List.mem_filter.mp stale).1)
  exact (ByKey.find?_eq_none _).mp (vacant.resolve_left notOld)

/-! ## Up to order -/

namespace Alike

variable {left right : Blueprint}

theorem unnamed (alike : left.Alike right) {name : String} (unnamed : left.Unnamed name) :
    right.Unnamed name :=
  ⟨fun foreignKey member => unnamed.1 foreignKey (alike.foreignKeys.mem_iff.mpr member),
    fun index member => unnamed.2 index (alike.indexes.mem_iff.mpr member)⟩

theorem hasColumns (alike : left.Alike right) {names : List String}
    (present : left.HasColumns names) : right.HasColumns names :=
  fun name named => (alike.columns.map _).mem_iff.mp (present name named)

theorem sheds (alike : left.Alike right) {old new : Parts} (sheds : left.Sheds old new) :
    right.Sheds old new := by
  intro column stale
  have without : (left.withoutStale old new).Alike (right.withoutStale old new) :=
    { alike with
      foreignKeys := alike.foreignKeys.filter _
      indexes := alike.indexes.filter _ }
  exact without.unnamed (sheds column stale)

end Alike

end Blueprint

end Migration
