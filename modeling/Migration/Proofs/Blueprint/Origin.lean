import Migration.Proofs.Blueprint.Extension

namespace Migration

/-! Where the columns and the constraints of an entity's table come from. -/

namespace Context

variable (context : Context) {entity : Entity}

theorem mem_propertyParts {parts : Parts} :
    parts ∈ context.propertyParts entity ↔
      ∃ entry ∈ entity.properties, context.ownParts entity entry.1 entry.2 = parts := by
  rw [propertyParts, List.mem_map]
  apply exists_congr
  intro entry
  apply and_congr_left'
  rw [List.mem_append, List.mem_filter, List.mem_filter, ← and_or_left]
  exact and_iff_left (by cases entry.2.isAssociation <;> simp)

/-- Everything that could become a column of the table; of each name the first plain one does. -/
def sourceColumns (entity : Entity) : List Column :=
  (context.keyColumn? entity.key).toList
    ++ (entity.properties.flatMap fun (name, property) =>
      (context.ownParts entity name property).columns)
    ++ optionColumns entity.options

theorem mem_sourceColumns {column : Column} :
    column ∈ context.sourceColumns entity ↔
      context.keyColumn? entity.key = some column
        ∨ (∃ entry ∈ entity.properties,
          column ∈ (context.ownParts entity entry.1 entry.2).columns)
        ∨ column ∈ optionColumns entity.options := by
  simp only [sourceColumns, List.mem_append, List.mem_flatMap, Option.mem_toList, or_assoc]

theorem startDraft_columns :
    (context.startDraft entity).blueprint.columns = (context.keyColumn? entity.key).toList := by
  rw [startDraft]
  cases context.keyColumn? entity.key <;> rfl

/-- What holds of every source of the table, and is kept when the marker of a primary column is taken
away, holds of every column. -/
theorem forall_mem_build (holds : Column → Prop)
    (sources : ∀ source ∈ context.sourceColumns entity, holds source)
    (stripped : ∀ column, holds column → holds column.withoutPrimary) :
    ∀ column ∈ (context.build entity).columns, holds column := by
  simp only [mem_sourceColumns] at sources
  have drafted : ∀ column ∈ (context.draftOf entity).blueprint.columns, holds column := by
    intro column member
    rw [draftOf_blueprint] at member
    rcases List.mem_append.mp (ByKey.addAll_subset _ _ _ member) with start | made
    · rw [startDraft_columns, Option.mem_toList] at start
      exact sources column (.inl start)
    · rcases List.mem_flatMap.mp made with ⟨parts, isPart, inParts⟩
      rcases context.mem_propertyParts.mp isPart with ⟨entry, isEntry, rfl⟩
      rcases List.mem_map.mp inParts with ⟨source, isSource, rfl⟩
      have given := sources source (.inr (.inl ⟨entry, isEntry, isSource⟩))
      rw [Column.under]
      split
      case isTrue => exact given
      case isFalse => exact stripped source given
  intro column member
  rw [build_eq] at member
  rcases List.mem_append.mp (ByKey.addAll_subset _ _ _ member) with keyed | option
  · rcases Blueprint.mem_or_stripped_of_mem_setPrimaryKey keyed with kept | ⟨before, isBefore, rfl⟩
    · exact drafted column kept
    · exact stripped before (drafted before isBefore)
  · exact sources column (.inr (.inr option))

/-- A column of the table is one of its sources, at most without the marker of a primary column. -/
theorem exists_source_of_mem_build {column : Column}
    (member : column ∈ (context.build entity).columns) :
    ∃ source ∈ context.sourceColumns entity, source.withoutPrimary = column.withoutPrimary :=
  context.forall_mem_build
    (fun column =>
      ∃ source ∈ context.sourceColumns entity, source.withoutPrimary = column.withoutPrimary)
    (fun source isSource => ⟨source, isSource, rfl⟩)
    (fun column ⟨source, isSource, same⟩ =>
      ⟨source, isSource, same.trans column.withoutPrimary_withoutPrimary.symm⟩)
    column member

theorem hasColumn_build_of_source {source : Column}
    (member : source ∈ context.sourceColumns entity) :
    (context.build entity).hasColumn source.name = true := by
  rw [Blueprint.hasColumn_iff, mem_keys_build_columns, draftOf_blueprint]
  dsimp only
  rw [ByKey.mem_keys_addAll, startDraft_columns]
  rcases context.mem_sourceColumns.mp member with key | ⟨entry, isEntry, isSource⟩ | option
  · exact .inl (.inl (ByKey.mem_keys_of_mem _ (Option.mem_toList.mpr key)))
  · refine .inl (.inr ((ByKey.mem_keys _).mpr ⟨source.under entity.key, ?_, by simp⟩))
    exact List.mem_flatMap.mpr ⟨_, context.mem_propertyParts.mpr ⟨entry, isEntry, rfl⟩,
      List.mem_map_of_mem isSource⟩
  · exact .inr (ByKey.mem_keys_of_mem _ option)

theorem hasColumn_of_mem_ownColumns {entry : String × Property} (member : entry ∈ entity.properties)
    {column : String}
    (own : column ∈ ByKey.keys Column.name (context.ownParts entity entry.1 entry.2).columns) :
    (context.build entity).hasColumn column = true := by
  rcases (ByKey.mem_keys _).mp own with ⟨source, isSource, rfl⟩
  exact context.hasColumn_build_of_source
    (context.mem_sourceColumns.mpr (.inr (.inl ⟨entry, member, isSource⟩)))

theorem hasColumn_build_iff {name : String} :
    (context.build entity).hasColumn name = true ↔
      name ∈ ByKey.keys Column.name (context.sourceColumns entity) := by
  constructor
  · intro present
    rcases (ByKey.mem_keys _).mp (Blueprint.hasColumn_iff.mp present) with ⟨column, member, rfl⟩
    rcases context.exists_source_of_mem_build member with ⟨source, isSource, same⟩
    have sameName : source.withoutPrimary.name = column.withoutPrimary.name :=
      congrArg Column.name same
    exact (ByKey.mem_keys _).mpr ⟨source, isSource, sameName⟩
  · intro given
    rcases (ByKey.mem_keys _).mp given with ⟨source, isSource, rfl⟩
    exact context.hasColumn_build_of_source isSource

theorem exists_entry_of_mem_foreignKeys {foreignKey : ForeignKey}
    (member : foreignKey ∈ (context.build entity).foreignKeys) :
    ∃ entry ∈ entity.properties,
      foreignKey ∈ (context.ownParts entity entry.1 entry.2).foreignKeys := by
  rw [build_foreignKeys] at member
  have given := ByKey.addAll_subset _ _ _ member
  rw [List.nil_append] at given
  rcases List.mem_flatMap.mp given with ⟨parts, isPart, inParts⟩
  rcases (context.mem_propertyParts).mp isPart with ⟨entry, isEntry, rfl⟩
  exact ⟨entry, isEntry, inParts⟩

end Context

end Migration
