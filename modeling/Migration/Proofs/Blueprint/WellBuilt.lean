import Migration.Proofs.Blueprint.Indexed

namespace Migration

/-! What can be relied upon in the table of an entity, however the names of its columns come to
clash. -/

/-- The association has columns in the table of its entity. -/
def Association.isKept (association : Association) : Bool :=
  association.materializesColumn || association.relation = .morphTo

namespace Context

variable (context : Context)

/-- All columns that are asked for, in the order in which they are: the generated key, plain
properties, associations that are kept in the table, and what the options want. -/
def wantedColumns (entity : Entity) : List Column :=
  let plain := entity.properties.filter (!·.2.isAssociation)
  let associations := entity.associations.filter (·.2.isKept)
  (context.keyColumn? entity.key).toList
    ++ plain.flatMap (fun entry => context.plainColumns entry.1 entry.2)
    ++ associations.flatMap (fun entry =>
      (context.ownParts entity entry.1 (.association entry.2)).columns)
    ++ (if entity.options.timestamps then timestampColumns else [])
    ++ (if entity.options.softDelete then [softDeleteColumn] else [])

/-- The blueprint is one for the table of the entity. -/
structure WellBuilt (entity : Entity) (blueprint : Blueprint) : Prop where
  distinct : blueprint.Distinct
  distinctKey : blueprint.primaryKey.Nodup
  keyed : ∀ name ∈ blueprint.primaryKey, blueprint.hasColumn name = true
  referring : ∀ foreignKey ∈ blueprint.foreignKeys, ∀ name ∈ foreignKey.columns,
    blueprint.hasColumn name = true
  /-- The indexes of properties are there, and over columns that are there. -/
  indexed : ∀ entry ∈ entity.properties,
    ∀ index ∈ (context.ownParts entity entry.1 entry.2).indexes,
      blueprint.hasShape index = true ∧ ∀ name ∈ index.columns, blueprint.hasColumn name = true
  /-- A column is marked as primary if and only if it is the whole key. -/
  marked : ∀ column ∈ blueprint.columns,
    column.isPrimary = true ↔ blueprint.primaryKey = [column.name]
  /-- A generated key is the first column, and no other is marked. -/
  generated : entity.key ≠ .declared → ∃ column rest,
    context.keyColumn? entity.key = some column ∧ column.name = "id" ∧ column.isPrimary = true
      ∧ blueprint.columns = column :: rest ∧ blueprint.primaryKey = ["id"]
      ∧ ∀ other ∈ rest, other.isPrimary = false
  /-- A declared key is made of the columns that stay of those wanted as primary. -/
  declared : entity.key = .declared → blueprint.primaryKey =
    (((context.wantedColumns entity).eraseDupsBy (·.name == ·.name)).filter
      (·.isPrimary)).map (·.name)
  /-- Of the columns of one name that are wanted the first is there. -/
  columns : blueprint.columns.map (·.withoutPrimary) =
    ((context.wantedColumns entity).eraseDupsBy (·.name == ·.name)).map (·.withoutPrimary)

variable {context} {entity : Entity}

/-! ## Columns -/

theorem flatMap_columns_plain (entity : Entity) :
    (entity.properties.filter (!·.2.isAssociation)).flatMap (fun entry =>
        (context.ownParts entity entry.1 entry.2).columns) =
      (entity.properties.filter (!·.2.isAssociation)).flatMap fun entry =>
        context.plainColumns entry.1 entry.2 := by
  apply List.flatMap_congr
  rintro ⟨name, property⟩ member
  have plain := (List.mem_filter.mp member).2
  cases property with
  | association association => contradiction
  | _ => rfl

theorem ownParts_columns_of_not_kept {association : Association} (name : String)
    (columnless : association.isKept = false) :
    (context.ownParts entity name (.association association)).columns = [] := by
  simp only [Association.isKept, Bool.or_eq_false_iff, decide_eq_false_iff_not] at columnless
  simp [ownParts, parts, associationParts?, columnless]

theorem flatMap_columns_associations (entity : Entity) :
    (entity.properties.filter (·.2.isAssociation)).flatMap (fun entry =>
        (context.ownParts entity entry.1 entry.2).columns) =
      (entity.associations.filter (·.2.isKept)).flatMap fun entry =>
        (context.ownParts entity entry.1 (.association entry.2)).columns := by
  rw [Entity.associations]
  induction entity.properties with
  | nil => rfl
  | cons entry rest induction =>
      rcases entry with ⟨name, property⟩
      cases property with
      | association association =>
          rw [List.filter_cons_of_pos rfl, List.flatMap_cons, induction]
          change _ = List.flatMap _ (List.filter _ ((name, association) :: _))
          cases kept : association.isKept with
          | true => rw [List.filter_cons, if_pos kept, List.flatMap_cons]
          | false =>
              rw [List.filter_cons, if_neg (by simp [kept]),
                ownParts_columns_of_not_kept name kept, List.nil_append]
      | _ => exact induction

theorem flatMap_columns_propertyParts (entity : Entity) :
    (context.propertyParts entity).flatMap (·.columns) =
      (entity.properties.filter (!·.2.isAssociation)).flatMap (fun entry =>
          context.plainColumns entry.1 entry.2)
        ++ (entity.associations.filter (·.2.isKept)).flatMap fun entry =>
          (context.ownParts entity entry.1 (.association entry.2)).columns := by
  rw [propertyParts, List.flatMap_map, List.flatMap_append, ← flatMap_columns_associations,
    ← flatMap_columns_plain]
  rfl

theorem map_withoutPrimary_setPrimaryKey (blueprint : Blueprint) (key : List String) :
    (blueprint.setPrimaryKey key).columns.map (·.withoutPrimary) =
      blueprint.columns.map (·.withoutPrimary) := by
  rw [Blueprint.setPrimaryKey]
  dsimp only
  split
  case isTrue => simp
  case isFalse => rfl

theorem wantedColumns_eq (entity : Entity) :
    context.wantedColumns entity = (context.startDraft entity).blueprint.columns
      ++ ((context.propertyParts entity).flatMap (·.columns)
        ++ optionColumns entity.options) := by
  simp [wantedColumns, startDraft_columns, flatMap_columns_propertyParts, optionColumns]

/-- The columns that stay, as they are wanted. -/
theorem eraseDupsBy_wantedColumns (entity : Entity) :
    (context.wantedColumns entity).eraseDupsBy (·.name == ·.name) =
      ByKey.addAll Column.name
        (ByKey.addAll Column.name (context.startDraft entity).blueprint.columns
          ((context.propertyParts entity).flatMap (·.columns)))
        (optionColumns entity.options) := by
  have start : ByKey.addAll Column.name [] (context.startDraft entity).blueprint.columns =
      (context.startDraft entity).blueprint.columns :=
    ByKey.addAll_eq_append Column.name (by simp) (context.nodup_startDraft_columns entity)
  rw [← ByKey.addAll_nil_eq_eraseDupsBy, wantedColumns_eq, ← ByKey.addAll_addAll,
    ← ByKey.addAll_addAll, start]

/-- Up to their markers, the columns are those that stay of the ones wanted. -/
theorem map_withoutPrimary_build_columns (entity : Entity) :
    (context.build entity).columns.map (·.withoutPrimary) =
      ((context.wantedColumns entity).eraseDupsBy (·.name == ·.name)).map (·.withoutPrimary) := by
  have kept (column : Column) : column.withoutPrimary.name = column.name := rfl
  have properties : ((context.propertyParts entity).flatMap fun parts =>
        parts.columns.map (·.under entity.key)).map (·.withoutPrimary) =
      ((context.propertyParts entity).flatMap (·.columns)).map (·.withoutPrimary) := by
    simp [List.map_flatMap, Function.comp_def]
  rw [eraseDupsBy_wantedColumns, ByKey.map_addAll _ kept, ByKey.map_addAll _ kept, ← properties,
    build_eq]
  dsimp only
  rw [ByKey.map_addAll _ kept, map_withoutPrimary_setPrimaryKey, draftOf_blueprint]
  dsimp only
  rw [ByKey.map_addAll _ kept]

/-! ## The key -/

theorem exists_marked_of_mem_build_primaryKey (entity : Entity) {name : String}
    (inKey : name ∈ (context.build entity).primaryKey) :
    ∃ column ∈ (context.draftOf entity).blueprint.columns,
      column.isPrimary = true ∧ column.name = name := by
  rw [build_primaryKey, keyMarked_draftOf] at inKey
  rcases List.mem_map.mp inKey with ⟨column, member, named⟩
  exact ⟨column, (List.mem_filter.mp member).1, (List.mem_filter.mp member).2, named⟩

theorem nodup_build_primaryKey (entity : Entity) :
    (context.build entity).primaryKey.Nodup := by
  rw [build_primaryKey, keyMarked_draftOf]
  exact (context.distinct_draftOf entity).columns.sublist (List.filter_sublist.map _)

theorem hasColumn_of_mem_build_primaryKey {name : String}
    (inKey : name ∈ (context.build entity).primaryKey) :
    (context.build entity).hasColumn name = true := by
  rcases exists_marked_of_mem_build_primaryKey entity inKey with ⟨column, drafted, _, rfl⟩
  exact Blueprint.hasColumn_iff.mpr
    (context.mem_keys_build_columns.mpr (.inl (ByKey.mem_keys_of_mem _ drafted)))

/-- The only column of a key stays as it was before the key was settled, with its marker. -/
theorem drafted_of_build_primaryKey {column : Column}
    (member : column ∈ (context.build entity).columns)
    (key : (context.build entity).primaryKey = [column.name]) :
    column ∈ (context.draftOf entity).blueprint.columns ∧ column.isPrimary = true := by
  have inKey : column.name ∈ (context.build entity).primaryKey := by simp [key]
  rcases exists_marked_of_mem_build_primaryKey entity inKey with ⟨marked, drafted, isMarked, same⟩
  have single : ¬1 < (context.draftOf entity).key.length := by
    rw [← build_primaryKey, key]
    simp
  have built : marked ∈ (context.build entity).columns := by
    rw [build_eq, Blueprint.setPrimaryKey]
    dsimp only
    rw [if_neg single]
    exact ByKey.subset_addAll _ _ _ drafted
  have distinct := ByKey.single_of_nodup _ (context.distinct_build entity).columns
  rw [← distinct marked built column member same]
  exact ⟨drafted, isMarked⟩

theorem build_marked {column : Column} (member : column ∈ (context.build entity).columns) :
    column.isPrimary = true ↔ (context.build entity).primaryKey = [column.name] :=
  ⟨context.marksKey_build entity column member,
    fun key => (drafted_of_build_primaryKey member key).2⟩

theorem build_generated (generated : entity.key ≠ .declared) : ∃ column rest,
    context.keyColumn? entity.key = some column ∧ column.name = "id" ∧ column.isPrimary = true
      ∧ (context.build entity).columns = column :: rest
      ∧ (context.build entity).primaryKey = ["id"] ∧ ∀ other ∈ rest, other.isPrimary = false := by
  rcases context.exists_keyColumn? generated with ⟨column, isKey⟩
  rcases context.exists_build_columns_eq_cons isKey with ⟨rest, whole⟩
  have name := context.keyColumn?_name isKey
  have key := context.build_primaryKey_of_generated isKey
  refine ⟨column, rest, isKey, name, context.isPrimary_keyColumn? isKey, whole, key, ?_⟩
  intro other member
  have distinct := (context.distinct_build entity).columns
  rw [whole, ByKey.keys_cons, name] at distinct
  by_contra marked
  have called : ["id"] = [other.name] := by
    rw [← key]
    exact (build_marked (whole ▸ List.mem_cons_of_mem _ member)).mp (by simpa using marked)
  rw [List.singleton_inj.mp called] at distinct
  exact (List.nodup_cons.mp distinct).1 (ByKey.mem_keys_of_mem _ member)

theorem draftOf_columns_of_declared (declared : entity.key = .declared) :
    (context.draftOf entity).blueprint.columns =
      ByKey.addAll Column.name (context.startDraft entity).blueprint.columns
        ((context.propertyParts entity).flatMap (·.columns)) := by
  have asTheyAre (column : Column) : column.under entity.key = column := by
    rw [Column.under, if_pos declared]
  simp [draftOf_blueprint, asTheyAre]

theorem build_primaryKey_of_declared (declared : entity.key = .declared) :
    (context.build entity).primaryKey =
      (((context.wantedColumns entity).eraseDupsBy (·.name == ·.name)).filter
        (·.isPrimary)).map (·.name) := by
  rw [build_primaryKey, keyMarked_draftOf, eraseDupsBy_wantedColumns,
    ← draftOf_columns_of_declared declared]
  rcases ByKey.exists_addAll_eq_append Column.name (context.draftOf entity).blueprint.columns
    (optionColumns entity.options) with ⟨added, given, whole⟩
  have unmarked : added.filter (·.isPrimary) = [] := by
    rw [List.filter_eq_nil_iff]
    intro column member
    simp [isPrimary_optionColumns (given member)]
  rw [whole, List.filter_append, unmarked, List.append_nil]

/-! ## Constraints -/

theorem hasColumn_of_mem_build_foreignKeys {foreignKey : ForeignKey}
    (member : foreignKey ∈ (context.build entity).foreignKeys) {name : String}
    (named : name ∈ foreignKey.columns) : (context.build entity).hasColumn name = true := by
  rcases context.exists_entry_of_mem_foreignKeys member with ⟨entry, isEntry, own⟩
  have grounded := (context.parts_modest entity.name entity.table entry.1 entry.2).foreignKeys
  exact context.hasColumn_of_mem_ownColumns isEntry (grounded foreignKey own name named)

theorem hasShape_of_mem_ownIndexes {entry : String × Property}
    (member : entry ∈ entity.properties) {index : Index}
    (own : index ∈ (context.ownParts entity entry.1 entry.2).indexes) :
    (context.build entity).hasShape index = true := by
  rw [Blueprint.hasShape_iff, build_indexes, ByKey.mem_keys_addAll, ByKey.mem_keys_addAll]
  have given : index ∈ (context.propertyParts entity).flatMap (·.indexes) :=
    List.mem_flatMap.mpr ⟨_, context.mem_propertyParts.mpr ⟨entry, member, rfl⟩, own⟩
  exact .inl (.inr (ByKey.mem_keys_of_mem _ given))

/-- The table of an entity is well built, whatever the entity is like and whichever of its columns
are called the same. -/
theorem wellBuilt_build (context : Context) (entity : Entity) :
    context.WellBuilt entity (context.build entity) where
  distinct := context.distinct_build entity
  distinctKey := nodup_build_primaryKey entity
  keyed _ := hasColumn_of_mem_build_primaryKey
  referring _ member _ := hasColumn_of_mem_build_foreignKeys member
  indexed _ member _ own :=
    ⟨hasShape_of_mem_ownIndexes member own,
      fun _ named => context.hasColumn_of_mem_ownIndexes member own named⟩
  marked _ := build_marked
  generated := build_generated
  declared := build_primaryKey_of_declared
  columns := map_withoutPrimary_build_columns entity

end Context

end Migration
