import Migration.Proofs.Blueprint.PartColumns
import Migration.Proofs.Pivot.References

namespace Migration

/-! The columns of a polymorphic join table: one that refers to the target, and two that say which
row of which declarer is meant. The relation may be called like the target; then the reference to
the target and that to the declarer have one name, and the second is lost. -/

namespace MorphTable

variable (morph : MorphTable) (context : Context)

/-- The table has its three columns, and one unique index over them. -/
structure KeepsApart : Prop where
  distinct : [morph.targetColumn, morph.typeColumn, morph.idColumn].Nodup
  columns : (morph.blueprint context).columns =
    [context.referenceColumn morph.targetColumn (context.schema.keyTypeOf morph.target),
      morph.declarerColumn, context.polymorphicIdColumn morph.idColumn morph.declarers]
  unique : ((morph.blueprint context).indexes.filter (·.unique)).map (·.columns) =
    [[morph.targetColumn, morph.typeColumn, morph.idColumn]]

/-- The indexes are over different numbers of columns, so each of them is kept. -/
theorem blueprint_indexes : (morph.blueprint context).indexes =
    [Index.onColumns morph.table [morph.targetColumn, morph.typeColumn, morph.idColumn] true,
      Index.onColumns morph.table [morph.typeColumn, morph.idColumn] false,
      Index.onColumns morph.table [morph.targetColumn] false] := by
  rw [blueprint]
  dsimp only
  rw [Blueprint.addIndexes_eq, Blueprint.addForeignKey_eq, Blueprint.addColumns_eq]
  exact ByKey.addAll_eq_append _ (by simp) (by simp [Index.onColumns, Index.shape])

theorem id_ne_type (left right : String) : left ++ "_id" ≠ right ++ "_type" := by
  intro same
  have lasts := congrArg (·.toList.getLast?) same
  simp at lasts

@[simp] theorem declarerColumn_name : morph.declarerColumn.name = morph.typeColumn := rfl

variable {morph}

theorem nodup_columns_iff (named : morph.targetColumn = foreignKeyColumn morph.target) :
    [morph.targetColumn, morph.typeColumn, morph.idColumn].Nodup ↔
      morph.morphName ≠ Text.snakeCase morph.target := by
  have keyKept : foreignKeyColumn morph.target ≠ morph.typeColumn := id_ne_type _ _
  have idKept : morph.typeColumn ≠ morph.idColumn := (id_ne_type _ _).symm
  have clash : foreignKeyColumn morph.target = morph.idColumn ↔
      morph.morphName = Text.snakeCase morph.target := by
    rw [foreignKeyColumn, idColumn, String.append_left_inj, eq_comm]
  simp [named, keyKept, idKept, clash]

theorem keepsApart_iff (named : morph.targetColumn = foreignKeyColumn morph.target) :
    morph.KeepsApart context ↔ morph.morphName ≠ Text.snakeCase morph.target := by
  constructor
  · intro kept
    exact (nodup_columns_iff named).mp kept.distinct
  · intro differs
    have distinct := (nodup_columns_iff named).mpr differs
    refine ⟨distinct, ?_, ?_⟩
    · rw [blueprint_columns]
      exact ByKey.addAll_eq_append _ (by simp)
        (by simpa using distinct)
    · rw [blueprint_indexes]
      rfl

theorem blueprint_columns_of_clash (named : morph.targetColumn = foreignKeyColumn morph.target)
    (clash : morph.morphName = Text.snakeCase morph.target) :
    (morph.blueprint context).columns =
      [context.referenceColumn morph.targetColumn (context.schema.keyTypeOf morph.target),
        morph.declarerColumn] := by
  have same : morph.idColumn = morph.targetColumn := by
    rw [named, idColumn, clash]
    rfl
  have differs : morph.targetColumn ≠ morph.typeColumn := named ▸ id_ne_type _ _
  have both : ByKey.addAll Column.name []
      [context.referenceColumn morph.targetColumn (context.schema.keyTypeOf morph.target),
        morph.declarerColumn] = _ :=
    ByKey.addAll_eq_append _ (by simp) (by simpa using differs)
  have known := ByKey.addAll_addAll Column.name []
    [context.referenceColumn morph.targetColumn (context.schema.keyTypeOf morph.target),
      morph.declarerColumn]
    [context.polymorphicIdColumn morph.idColumn morph.declarers]
  rw [both] at known
  rw [blueprint_columns]
  refine known.symm.trans (ByKey.addAll_of_known _ ?_)
  simp [same]

end MorphTable

/-- A polymorphic join table keeps its three columns apart if the relation is not called like the
target. Otherwise the key of the declarers is the column that is lost. -/
theorem MorphTable.keepsApart_iff_of_mem_morphTables {context : Context} {entity : Entity}
    {morph : MorphTable} (derived : morph ∈ context.schema.morphTables entity) :
    (morph.KeepsApart context ↔ morph.morphName ≠ Text.snakeCase morph.target)
      ∧ (morph.morphName = Text.snakeCase morph.target → (morph.blueprint context).columns =
        [context.referenceColumn morph.targetColumn (context.schema.keyTypeOf morph.target),
          morph.declarerColumn]) := by
  rcases Schema.exists_derivedFrom_of_mem_morphTables derived with ⟨_, _, _, origin⟩
  exact ⟨keepsApart_iff context origin.targetColumn,
    blueprint_columns_of_clash context origin.targetColumn⟩

/-! Posts and videos have tags, under a name of the relation that is its own or that of the
target. -/

def taggedContext (morphName : Option String) : Context :=
  let tags : Property := .association
    { relation := .morphToMany, target := "Tag", morphName := morphName,
      joinTable := some "taggings" }
  .ofSettings
    { entities := [
        ("Tag", { name := "Tag" }),
        ("Post", { name := "Post", properties := [("tags", tags)] }),
        ("Video", { name := "Video", properties := [("tags", tags)] })] } {}

theorem taggedContext_keepsApart : ∃ entity ∈ (taggedContext none).schema.entities.values,
    ∃ morph ∈ (taggedContext none).schema.morphTables entity,
      morph.morphName ≠ Text.snakeCase morph.target
        ∧ morph.KeepsApart (taggedContext none) := by
  have found : ∃ entity ∈ (taggedContext none).schema.entities.values,
      ∃ morph ∈ (taggedContext none).schema.morphTables entity,
        morph.morphName ≠ Text.snakeCase morph.target := by decide +kernel
  rcases found with ⟨entity, isEntity, morph, derived, differs⟩
  exact ⟨entity, isEntity, morph, derived, differs,
    (MorphTable.keepsApart_iff_of_mem_morphTables derived).1.mpr differs⟩

/-- The relation is called `tag`, and `tag_id` says which tag it is, but not of which post. -/
theorem taggedContext_columns_lost :
    ∃ entity ∈ (taggedContext (some "tag")).schema.entities.values,
      ∃ morph ∈ (taggedContext (some "tag")).schema.morphTables entity,
        (morph.blueprint (taggedContext (some "tag"))).columns.map (·.name) =
            ["tag_id", "tag_type"]
          ∧ ¬morph.KeepsApart (taggedContext (some "tag")) := by
  have found : ∃ entity ∈ (taggedContext (some "tag")).schema.entities.values,
      ∃ morph ∈ (taggedContext (some "tag")).schema.morphTables entity,
        (morph.blueprint (taggedContext (some "tag"))).columns.map (·.name) =
            ["tag_id", "tag_type"]
          ∧ ¬[morph.targetColumn, morph.typeColumn, morph.idColumn].Nodup := by decide +kernel
  rcases found with ⟨entity, isEntity, morph, derived, columns, clash⟩
  exact ⟨entity, isEntity, morph, derived, columns, fun kept => clash kept.distinct⟩

end Migration
