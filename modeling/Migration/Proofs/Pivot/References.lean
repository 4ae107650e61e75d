import Migration.Proofs.Blueprint.References
import Migration.Proofs.Pivot.Derivation

namespace Migration

/-! How the tables derived from associations refer to the entities that they stand between. Their
key columns come first, so nothing takes a name of theirs. -/

theorem Entity.mem_associations {entity : Entity} {name : String} {association : Association} :
    (name, association) ∈ entity.associations ↔
      (name, .association association) ∈ entity.properties := by
  rw [associations, List.mem_filterMap]
  constructor
  · rintro ⟨⟨known, property⟩, member, given⟩
    cases property <;> simp [Property.association?] at given
    rcases given with ⟨rfl, rfl⟩
    exact member
  · intro member
    exact ⟨_, member, rfl⟩

/-! ## Join tables -/

namespace JoinTable

variable (join : JoinTable) (context : Context)

/-- The columns for both entities, before the fields and the timestamps. -/
def keyColumns : List Column :=
  [context.referenceColumn join.localColumn (context.schema.keyTypeOf join.owner),
    context.referenceColumn join.foreignColumn (context.schema.keyTypeOf join.target)]

/-- The columns of the fields, and the timestamps. -/
def furtherColumns : List Column :=
  (join.pivotFields.flatMap fun (name, property) =>
      (context.plainColumns name property).map (·.withoutPrimary))
    ++ if context.settings.pivotTimestamps then timestampColumns else []

theorem blueprint_columns : (join.blueprint context).columns =
    (ByKey.addAll Column.name [] (join.keyColumns context ++ join.furtherColumns context)).map
      (·.withoutPrimary) := by
  rw [blueprint]
  dsimp only
  rw [Blueprint.addIndexes_eq, Blueprint.addForeignKeys_eq, Blueprint.addColumns_eq,
    List.append_assoc]
  rfl

theorem exists_blueprint_columns_eq : ∃ rest,
    (join.blueprint context).columns =
      (ByKey.addAll Column.name [] (join.keyColumns context ++ rest)).map (·.withoutPrimary) :=
  ⟨_, join.blueprint_columns context⟩

theorem find?_keyColumns (distinct : join.foreignColumn ≠ join.localColumn) (rest : List Column)
    {column name : String} (side : (column, name) = (join.localColumn, join.owner)
      ∨ (column, name) = (join.foreignColumn, join.target)) :
    ByKey.find? Column.name (join.keyColumns context ++ rest) column =
      some (context.referenceColumn column (context.schema.keyTypeOf name)) := by
  rw [ByKey.find?_append]
  rcases side with same | same <;> rcases Prod.mk.inj same with ⟨rfl, rfl⟩
  · simp [keyColumns, ByKey.find?_cons]
  · simp [keyColumns, ByKey.find?_cons, distinct.symm]

/-- The foreign keys of both sides, whether or not they have names of their own. -/
def keyReferences : List ForeignKey :=
  [(join.localColumn, join.owner), (join.foreignColumn, join.target)].map fun (column, entity) =>
    { ForeignKey.onColumn join.table column (context.schema.tableOf entity)
        (context.schema.referencedColumn entity) with
      onDelete := join.onDelete
      onUpdate := join.onUpdate }

theorem blueprint_foreignKeys : (join.blueprint context).foreignKeys =
    ByKey.addAll ForeignKey.name [] (join.keyReferences context) := by
  rw [blueprint]
  dsimp only
  rw [Blueprint.addIndexes_eq, Blueprint.addForeignKeys_eq, Blueprint.addColumns_eq]
  rfl

theorem of_mem_blueprint_foreignKeys {foreignKey : ForeignKey}
    (member : foreignKey ∈ (join.blueprint context).foreignKeys) :
    ∃ column name, ((column, name) = (join.localColumn, join.owner)
        ∨ (column, name) = (join.foreignColumn, join.target))
      ∧ foreignKey.columns = [column]
      ∧ foreignKey.referencedTable = context.schema.tableOf name
      ∧ foreignKey.referencedColumn = context.schema.referencedColumn name := by
  rw [blueprint_foreignKeys] at member
  rcases List.mem_map.mp (ByKey.addAll_subset _ _ _ member) with ⟨⟨column, name⟩, side, rfl⟩
  exact ⟨column, name, by simpa using side, rfl, rfl, rfl⟩

end JoinTable

/-- Of the two sides of a join table one declares it, and both are known. -/
theorem JoinTable.exists_leads {context : Context} (clean : context.schema.findings = [])
    {entity : Entity} (isEntity : entity ∈ context.schema.entities.values) {join : JoinTable}
    (derived : join ∈ context.schema.joinTables entity) {foreignKey : ForeignKey}
    (keyed : foreignKey ∈ (join.blueprint context).foreignKeys) :
    ∃ column name, context.Leads (join.blueprint context) foreignKey column name
      ∧ context.StoresReference (join.blueprint context) column name := by
  rcases Schema.exists_derivedFrom_of_mem_joinTables derived with
    ⟨property, association, declared, origin⟩
  rcases Schema.exists_sound_of_mem clean isEntity with ⟨_, sound⟩
  rcases join.of_mem_blueprint_foreignKeys context keyed with
    ⟨column, name, side, single, table, referenced⟩
  rcases join.exists_blueprint_columns_eq context with ⟨rest, columns⟩
  have made : (join.blueprint context).columns.map (·.withoutPrimary) =
      (ByKey.addAll Column.name [] (join.keyColumns context ++ rest)).map (·.withoutPrimary) := by
    rw [columns, List.map_map]
    simp [Function.comp_def]
  rcases Context.storesReference_of_first made
    (join.find?_keyColumns context origin.apart.symm rest side) with ⟨present, stored⟩
  have known : ∃ target, context.schema.entity? name = some target := by
    rcases side with same | same <;> rcases Prod.mk.inj same with ⟨rfl, rfl⟩
    · exact origin.owner ▸ Schema.exists_entity?_of_mem clean isEntity
    · have direct : association.relation ≠ .morphTo := by simp [origin.relation]
      exact origin.target ▸ sound.exists_target (Entity.mem_associations.mp declared) direct
  exact ⟨column, name, ⟨known, single, present, table, referenced⟩, stored⟩

/-! ## Polymorphic join tables -/

namespace MorphTable

variable (morph : MorphTable) (context : Context)

/-- Which of the declarers a row belongs to. -/
def declarerColumn : Column where
  name := morph.typeColumn
  storage := .enumeration
  args := { values := morph.declarers }

theorem blueprint_columns : (morph.blueprint context).columns = ByKey.addAll Column.name []
    [context.referenceColumn morph.targetColumn (context.schema.keyTypeOf morph.target),
      morph.declarerColumn, context.polymorphicIdColumn morph.idColumn morph.declarers] := by
  rw [blueprint]
  dsimp only
  rw [Blueprint.addIndexes_eq, Blueprint.addForeignKey_eq, Blueprint.addColumns_eq]
  rfl

theorem of_mem_blueprint_foreignKeys {foreignKey : ForeignKey}
    (member : foreignKey ∈ (morph.blueprint context).foreignKeys) :
    foreignKey.columns = [morph.targetColumn]
      ∧ foreignKey.referencedTable = context.schema.tableOf morph.target
      ∧ foreignKey.referencedColumn = context.schema.referencedColumn morph.target := by
  rw [blueprint] at member
  dsimp only at member
  rw [Blueprint.addIndexes_eq, Blueprint.addForeignKey_eq, Blueprint.addColumns_eq] at member
  rw [List.mem_singleton.mp member]
  exact ⟨rfl, rfl, rfl⟩

end MorphTable

/-- The fixed side of a polymorphic join table is known. -/
theorem MorphTable.exists_leads {context : Context} (clean : context.schema.findings = [])
    {entity : Entity} (isEntity : entity ∈ context.schema.entities.values) {morph : MorphTable}
    (derived : morph ∈ context.schema.morphTables entity) {foreignKey : ForeignKey}
    (keyed : foreignKey ∈ (morph.blueprint context).foreignKeys) :
    ∃ column name, context.Leads (morph.blueprint context) foreignKey column name
      ∧ context.StoresReference (morph.blueprint context) column name := by
  rcases Schema.exists_derivedFrom_of_mem_morphTables derived with
    ⟨property, association, declared, origin⟩
  rcases Schema.exists_sound_of_mem clean isEntity with ⟨_, sound⟩
  rcases morph.of_mem_blueprint_foreignKeys context keyed with ⟨single, table, referenced⟩
  have first (rest : List Column) : ByKey.find? Column.name
      (context.referenceColumn morph.targetColumn (context.schema.keyTypeOf morph.target) :: rest)
      morph.targetColumn =
        some (context.referenceColumn morph.targetColumn
          (context.schema.keyTypeOf morph.target)) := by
    rw [ByKey.find?_cons, Context.referenceColumn_name, if_pos rfl]
  have made := congrArg (List.map Column.withoutPrimary) (morph.blueprint_columns context)
  rcases Context.storesReference_of_first made (first _) with ⟨present, stored⟩
  have direct : association.relation ≠ .morphTo := by simp [origin.relation]
  have known : ∃ known, context.schema.entity? morph.target = some known :=
    origin.target ▸ sound.exists_target (Entity.mem_associations.mp declared) direct
  exact ⟨morph.targetColumn, morph.target, ⟨known, single, present, table, referenced⟩, stored⟩

end Migration
