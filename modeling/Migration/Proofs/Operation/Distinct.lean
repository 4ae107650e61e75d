import Migration.Proofs.Operation.Replay

namespace Migration

/-! What a column may be renamed to, and that no other operation brings a second column or foreign
key of one name or a second index of one shape into a table. -/

namespace Blueprint

/-- The name stands for a column somewhere in the blueprint. -/
def Mentions (blueprint : Blueprint) (name : String) : Prop :=
  blueprint.hasColumn name = true
    ∨ name ∈ blueprint.primaryKey
    ∨ (∃ foreignKey ∈ blueprint.foreignKeys, name ∈ foreignKey.columns)
    ∨ (∃ index ∈ blueprint.indexes, name ∈ index.columns)

instance (blueprint : Blueprint) (name : String) : Decidable (blueprint.Mentions name) :=
  inferInstanceAs (Decidable (_ ∨ _))

/-- A column can take the name without getting mixed up with another. -/
def Takes (blueprint : Blueprint) (source target : String) : Prop :=
  target = source ∨ ¬blueprint.Mentions target

instance (blueprint : Blueprint) (source target : String) :
    Decidable (blueprint.Takes source target) :=
  inferInstanceAs (Decidable (_ ∨ _))

/-! ## Renaming -/

@[simp] theorem renamed_self (name : String) : renamed name name = id := by
  funext other
  by_cases same : other = name <;> simp [renamed, same]

@[simp] theorem renamed_source (source target : String) : renamed source target source = target :=
  if_pos rfl

theorem renamed_of_ne {source name : String} (differs : name ≠ source) (target : String) :
    renamed source target name = name :=
  if_neg differs

theorem renamed_renamed {source target name : String} (other : target = source ∨ name ≠ target) :
    renamed target source (renamed source target name) = name := by
  rcases other with rfl | differs
  · simp
  · by_cases same : name = source
    · simp [same]
    · rw [renamed_of_ne same, renamed_of_ne differs]

/-- Names other than the new one stay apart. -/
theorem renamed_injective {source target left right : String}
    (leftOther : target = source ∨ left ≠ target) (rightOther : target = source ∨ right ≠ target)
    (same : renamed source target left = renamed source target right) : left = right := by
  rw [← renamed_renamed leftOther, same, renamed_renamed rightOther]

/-- A list of names, none of which is the new one, comes back whole. -/
theorem map_renamed_renamed {source target : String} {names : List String}
    (other : target = source ∨ target ∉ names) :
    (names.map (renamed source target)).map (renamed target source) = names := by
  rw [List.map_map]
  apply ByKey.map_eq_self
  intro name member
  exact renamed_renamed (other.imp_right fun absent same => absent (same ▸ member))

section Renaming

variable {blueprint : Blueprint} {source target : String}

theorem Takes.column (takes : blueprint.Takes source target) :
    target = source ∨ target ∉ ByKey.keys Column.name blueprint.columns :=
  takes.imp_right fun unknown member => unknown (.inl (hasColumn_iff.mpr member))

theorem Takes.primaryKey (takes : blueprint.Takes source target) :
    target = source ∨ target ∉ blueprint.primaryKey :=
  takes.imp_right fun unknown member => unknown (.inr (.inl member))

theorem Takes.foreignKey (takes : blueprint.Takes source target) {foreignKey : ForeignKey}
    (member : foreignKey ∈ blueprint.foreignKeys) : target = source ∨ target ∉ foreignKey.columns :=
  takes.imp_right fun unknown named => unknown (.inr (.inr (.inl ⟨foreignKey, member, named⟩)))

theorem Takes.index (takes : blueprint.Takes source target) {index : Index}
    (member : index ∈ blueprint.indexes) : target = source ∨ target ∉ index.columns :=
  takes.imp_right fun unknown named => unknown (.inr (.inr (.inr ⟨index, member, named⟩)))

/-- A renaming is taken back by the opposite one, to the last detail. -/
theorem renameColumn_renameColumn (takes : blueprint.Takes source target) :
    (blueprint.renameColumn source target).renameColumn target source = blueprint := by
  have columns : (blueprint.columns.map fun column =>
      { column with name := renamed target source (renamed source target column.name) }) =
        blueprint.columns := by
    apply ByKey.map_eq_self
    intro column member
    have other : target = source ∨ column.name ≠ target :=
      takes.column.imp_right fun absent same =>
        absent (same ▸ ByKey.mem_keys_of_mem Column.name member)
    rw [renamed_renamed other]
  have foreignKeys : (blueprint.foreignKeys.map fun foreignKey =>
      { foreignKey with
        columns := (foreignKey.columns.map (renamed source target)).map
          (renamed target source) }) = blueprint.foreignKeys := by
    apply ByKey.map_eq_self
    intro foreignKey member
    rw [map_renamed_renamed (takes.foreignKey member)]
  have indexes : (blueprint.indexes.map fun index =>
      { index with
        columns := (index.columns.map (renamed source target)).map
          (renamed target source) }) = blueprint.indexes := by
    apply ByKey.map_eq_self
    intro index member
    rw [map_renamed_renamed (takes.index member)]
  have primaryKey := map_renamed_renamed takes.primaryKey
  simp only [renameColumn, List.map_map, Function.comp_def]
    at columns foreignKeys indexes primaryKey ⊢
  rw [columns, foreignKeys, indexes, primaryKey]

theorem Distinct.renameColumn (distinct : blueprint.Distinct)
    (takes : blueprint.Takes source target) : (blueprint.renameColumn source target).Distinct where
  columns := by
    have keys : ByKey.keys Column.name (blueprint.renameColumn source target).columns =
        (ByKey.keys Column.name blueprint.columns).map (renamed source target) := by
      simp [ByKey.keys, Blueprint.renameColumn, Function.comp_def]
    rw [keys]
    refine List.Nodup.map_on ?_ distinct.columns
    intro left leftMember right rightMember same
    exact renamed_injective (takes.column.imp_right fun absent equal => absent (equal ▸ leftMember))
      (takes.column.imp_right fun absent equal => absent (equal ▸ rightMember)) same
  foreignKeys := by
    have keys : ByKey.keys ForeignKey.name (blueprint.renameColumn source target).foreignKeys =
        ByKey.keys ForeignKey.name blueprint.foreignKeys := by
      simp [ByKey.keys, Blueprint.renameColumn, Function.comp_def]
    rw [keys]
    exact distinct.foreignKeys
  indexes := by
    have keys : ByKey.keys Index.shape (blueprint.renameColumn source target).indexes =
        (ByKey.keys Index.shape blueprint.indexes).map fun shape =>
          (shape.1.map (renamed source target), shape.2) := by
      simp [ByKey.keys, Blueprint.renameColumn, Index.shape, Function.comp_def]
    rw [keys]
    refine List.Nodup.map_on ?_ distinct.indexes
    intro left leftMember right rightMember same
    rcases (ByKey.mem_keys _).mp leftMember with ⟨leftIndex, leftPresent, rfl⟩
    rcases (ByKey.mem_keys _).mp rightMember with ⟨rightIndex, rightPresent, rfl⟩
    simp only [Index.shape, Prod.mk.injEq] at same ⊢
    refine ⟨?_, same.2⟩
    rw [← map_renamed_renamed (takes.index leftPresent), same.1,
      map_renamed_renamed (takes.index rightPresent)]

/-- A column that is given the name of another is one too many of that name. -/
theorem not_distinct_renameColumn (differ : source ≠ target)
    (hasSource : blueprint.hasColumn source = true)
    (hasTarget : blueprint.hasColumn target = true) :
    ¬(blueprint.renameColumn source target).Distinct := by
  intro distinct
  have keys : ((ByKey.keys Column.name blueprint.columns).map (renamed source target)).Nodup := by
    simpa [ByKey.keys, renameColumn, Function.comp_def] using distinct.columns
  have merged : renamed source target source = renamed source target target := by
    rw [renamed_source, renamed_of_ne differ.symm]
  exact differ (List.inj_on_of_nodup_map keys (hasColumn_iff.mp hasSource)
    (hasColumn_iff.mp hasTarget) merged)

end Renaming

end Blueprint

/-! ## Every operation -/

namespace Operation

/-- A table that is created is distinct itself, and a column takes its new name. -/
def Admissible (blueprint : Blueprint) : Operation → Prop
  | .createTable created => created.Distinct
  | .renameColumn source target => blueprint.Takes source target
  | _ => True

def AdmissibleRun : Blueprint → List Operation → Prop :=
  Throughout Admissible

/-! ## Operations on parts -/

/-- The operation creates, alters or drops a single column or constraint. -/
def OnPart : Operation → Prop
  | .addColumn _ | .alterColumn _ | .dropColumn _ | .addForeignKey _ | .dropForeignKey _ _
  | .addIndex _ | .dropIndex _ _ _ => True
  | _ => False

theorem onPart_creating (parts : Parts) : ∀ operation ∈ parts.creating, operation.OnPart := by
  intro operation member
  simp only [Parts.creating, List.mem_append, List.mem_map] at member
  rcases member with (⟨_, _, rfl⟩ | ⟨_, _, rfl⟩) | ⟨_, _, rfl⟩ <;> trivial

theorem onPart_dropping (parts : Parts) : ∀ operation ∈ parts.dropping, operation.OnPart := by
  intro operation member
  simp only [Parts.dropping, List.mem_append, List.mem_map] at member
  rcases member with (⟨_, _, rfl⟩ | ⟨_, _, rfl⟩) | ⟨_, _, rfl⟩ <;> trivial

theorem onPart_reshaping (old new : Parts) :
    ∀ operation ∈ old.reshaping new, operation.OnPart := by
  intro operation member
  simp only [Parts.reshaping, List.mem_append, List.mem_map] at member
  rcases member with ((((⟨_, _, rfl⟩ | ⟨_, _, rfl⟩) | ⟨_, _, rfl⟩) | ⟨_, _, rfl⟩) |
    ⟨_, _, rfl⟩) | ⟨_, _, rfl⟩ <;> trivial

theorem admissible_of_onPart {operations : List Operation}
    (onPart : ∀ operation ∈ operations, operation.OnPart) (blueprint : Blueprint) :
    AdmissibleRun blueprint operations := by
  apply throughout_of_forall
  intro operation member state
  have here := onPart operation member
  cases operation <;> trivial

theorem admissible_creating (parts : Parts) (blueprint : Blueprint) :
    AdmissibleRun blueprint parts.creating :=
  admissible_of_onPart (onPart_creating parts) blueprint

theorem admissible_dropping (parts : Parts) (blueprint : Blueprint) :
    AdmissibleRun blueprint parts.dropping :=
  admissible_of_onPart (onPart_dropping parts) blueprint

theorem admissible_reshaping (old new : Parts) (blueprint : Blueprint) :
    AdmissibleRun blueprint (old.reshaping new) :=
  admissible_of_onPart (onPart_reshaping old new) blueprint

end Operation

namespace Blueprint.Distinct

variable {blueprint : Blueprint}

theorem setPrimaryKey (distinct : blueprint.Distinct) (key : List String) :
    (blueprint.setPrimaryKey key).Distinct where
  columns := by
    rw [keys_setPrimaryKey]
    exact distinct.columns
  foreignKeys := distinct.foreignKeys
  indexes := distinct.indexes

theorem apply (distinct : blueprint.Distinct) {operation : Operation}
    (admissible : operation.Admissible blueprint) : (operation.apply blueprint).Distinct := by
  have added (columns : List Column) : (blueprint.addColumns columns).Distinct := by
    rw [addColumns_eq]
    exact ⟨ByKey.nodup_addAll _ distinct.columns _, distinct.foreignKeys, distinct.indexes⟩
  have dropped (names : List String) : (blueprint.dropColumns names).Distinct := by
    rw [dropColumns_eq]
    exact ⟨ByKey.nodup_drop _ distinct.columns _, distinct.foreignKeys, distinct.indexes⟩
  cases operation with
  | createTable created => exact admissible
  | dropTable table => exact ⟨.nil, .nil, .nil⟩
  | addColumn column => exact added [column]
  | alterColumn column =>
      exact ⟨nodup_replaceOrAppend distinct.columns column, distinct.foreignKeys,
        distinct.indexes⟩
  | dropColumn column => exact dropped [column]
  | renameColumn source target => exact distinct.renameColumn admissible
  | addForeignKey foreignKey =>
      rw [Operation.apply, addForeignKey_eq]
      exact ⟨distinct.columns, ByKey.nodup_add _ distinct.foreignKeys _, distinct.indexes⟩
  | dropForeignKey name columns =>
      rw [Operation.apply, dropForeignKey_eq]
      exact ⟨distinct.columns, ByKey.nodup_drop _ distinct.foreignKeys _, distinct.indexes⟩
  | addIndex index =>
      rw [Operation.apply, addIndex_eq]
      exact ⟨distinct.columns, distinct.foreignKeys, ByKey.nodup_add _ distinct.indexes _⟩
  | dropIndex name columns unique =>
      rw [Operation.apply, dropIndex_eq]
      exact ⟨distinct.columns, distinct.foreignKeys, ByKey.nodup_drop _ distinct.indexes _⟩
  | addTimestamps => exact added timestampColumns
  | dropTimestamps => exact dropped ["created_at", "updated_at"]
  | addSoftDeletes => exact added [softDeleteColumn]
  | dropSoftDeletes => exact dropped ["deleted_at"]
  | dropPrimary columns => exact ⟨distinct.columns, distinct.foreignKeys, distinct.indexes⟩
  | addPrimary columns => exact distinct.setPrimaryKey columns

theorem replay (distinct : blueprint.Distinct) {operations : List Operation}
    (admissible : Operation.AdmissibleRun blueprint operations) :
    (Operation.replay blueprint operations).Distinct := by
  induction operations generalizing blueprint with
  | nil => exact distinct
  | cons operation rest induction => exact induction (distinct.apply admissible.1) admissible.2

theorem states (distinct : blueprint.Distinct) {operations : List Operation}
    (admissible : Operation.AdmissibleRun blueprint operations) :
    ∀ state ∈ Operation.states blueprint operations, state.Distinct := by
  induction operations generalizing blueprint with
  | nil => simp [Operation.states]
  | cons operation rest induction =>
      have next := distinct.apply admissible.1
      exact List.forall_mem_cons.mpr ⟨next, induction next admissible.2⟩

theorem creating (distinct : blueprint.Distinct) (parts : Parts) :
    (Operation.replay blueprint parts.creating).Distinct :=
  distinct.replay (Operation.admissible_creating parts blueprint)

theorem dropping (distinct : blueprint.Distinct) (parts : Parts) :
    (Operation.replay blueprint parts.dropping).Distinct :=
  distinct.replay (Operation.admissible_dropping parts blueprint)

theorem reshaping (distinct : blueprint.Distinct) (old new : Parts) :
    (Operation.replay blueprint (old.reshaping new)).Distinct :=
  distinct.replay (Operation.admissible_reshaping old new blueprint)

end Blueprint.Distinct

/-- Whatever operations are replayed on a distinct blueprint, it is distinct after each of them and
in the end, as long as what is created is and each renamed column takes its new name. -/
theorem Operation.distinct_replay_and_states {blueprint : Blueprint} (distinct : blueprint.Distinct)
    {operations : List Operation} (admissible : AdmissibleRun blueprint operations) :
    (replay blueprint operations).Distinct
      ∧ ∀ state ∈ states blueprint operations, state.Distinct :=
  ⟨distinct.replay admissible, distinct.states admissible⟩

/-! A table of posts, two columns of which swap their names by way of a third. -/

def postsBlueprint : Blueprint where
  table := "posts"
  columns := [
    { name := "title", storage := .string },
    { name := "slug", storage := .string },
    { name := "author_id", storage := .unsignedBigInteger }]
  primaryKey := ["slug"]
  foreignKeys := [.onColumn "posts" "author_id" "users" "id"]
  indexes := [.onColumns "posts" ["title", "slug"] true, .onColumns "posts" ["slug", "title"] true]

def swappedTitles : List Operation :=
  [.renameColumn "title" "other", .renameColumn "slug" "title", .renameColumn "other" "slug",
    .alterColumn { name := "slug", storage := .text }, .addIndex (.onColumns "posts" ["slug"] false),
    .addTimestamps, .addTimestamps, .addPrimary ["slug", "title"]]

theorem postsBlueprint_distinct_swappedTitles :
    postsBlueprint.Distinct ∧ Operation.AdmissibleRun postsBlueprint swappedTitles
      ∧ (Operation.replay postsBlueprint swappedTitles).Distinct := by
  have distinct : postsBlueprint.Distinct := by decide +kernel
  have admissible : Operation.AdmissibleRun postsBlueprint swappedTitles := by
    refine ⟨.inr (by decide +kernel), .inr (by decide +kernel), .inr (by decide +kernel), ?_⟩
    exact ⟨trivial, trivial, trivial, trivial, trivial, trivial⟩
  exact ⟨distinct, admissible, (Operation.distinct_replay_and_states distinct admissible).1⟩

end Migration
