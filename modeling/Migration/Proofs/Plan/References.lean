import Migration.Proofs.Pivot.References
import Migration.Proofs.Plan.Precedence

namespace Migration

/-! The plan of a schema without findings is closed under references: what a foreign key leads to is
planned, and what it is over is there and kept as the key at the other end asks for. -/

/-- In the entity that the table belongs to, another property than the one that the foreign key
comes from has a column of the same name. -/
def Schema.Shadowed (schema : Schema) (settings : Settings) (ordered : OrderedTable)
    (foreignKey : ForeignKey) : Prop :=
  ∃ entity ∈ schema.entities.values, entity.table = ordered.table
    ∧ (Context.ofSettings schema settings).Shadowed entity foreignKey

/-- The foreign key of a table in the plan leads to a table in the plan. If that table belongs to an
entity with a generated key, then it leads to that key, and its column is kept accordingly. -/
structure Plan.Resolves (plan : Plan) (schema : Schema) (settings : Settings)
    (ordered : OrderedTable) (foreignKey : ForeignKey) : Prop where
  planned : foreignKey.referencedTable ∈ plan.tableNames
  present : ∃ column, foreignKey.columns = [column] ∧ ordered.blueprint.hasColumn column = true
  toKey : ∀ entity ∈ schema.entities.values, entity.table = foreignKey.referencedTable →
    entity.key ≠ .declared → foreignKey.referencedColumn = "id"
      ∧ ∀ target ∈ plan.tables, target.table = foreignKey.referencedTable →
        (target.blueprint.columns.map (·.name)).head? = some "id"
          ∧ target.blueprint.primaryKey = ["id"]
  stored : ∀ entity ∈ schema.entities.values, entity.table = foreignKey.referencedTable →
    entity.key ≠ .declared → schema.Shadowed settings ordered foreignKey
      ∨ ∀ column ∈ ordered.blueprint.columns, column.name ∈ foreignKey.columns →
        entity.key.reference? settings = some column.stored

namespace Context

variable {context : Context} (clean : context.schema.findings = [])

include clean

/-- Whatever kind of table it is, each of its foreign keys leads somewhere. -/
theorem exists_leads_of_planned {planned : PlannedTable}
    (member : planned ∈ context.plannedTables) {foreignKey : ForeignKey}
    (keyed : foreignKey ∈ planned.blueprint.foreignKeys) :
    ∃ column name, context.Leads planned.blueprint foreignKey column name
      ∧ ((∃ entity ∈ context.schema.entities.values, entity.table = planned.table
          ∧ context.Shadowed entity foreignKey)
        ∨ context.StoresReference planned.blueprint column name) := by
  rw [plannedTables_eq] at member
  rcases List.mem_append.mp (ByKey.addAll_subset _ _ _ member) with isEntity | isPivot
  · rcases List.mem_map.mp isEntity with ⟨entity, entityMember, rfl⟩
    rw [entityTable_blueprint] at keyed ⊢
    rcases exists_leads_of_mem_build clean entityMember keyed with ⟨column, name, leads, stored⟩
    refine ⟨column, name, leads, stored.imp_left fun shadowed => ?_⟩
    exact ⟨entity, entityMember, (context.entityTable_table entity).symm, shadowed⟩
  · rcases List.mem_flatMap.mp isPivot with ⟨entity, entityMember, pivot⟩
    rcases List.mem_append.mp pivot with isJoin | isMorph
    · rcases List.mem_map.mp isJoin with ⟨join, derived, rfl⟩
      rw [PlannedTable.ofPivot_blueprint] at keyed ⊢
      rcases JoinTable.exists_leads clean entityMember derived keyed with
        ⟨column, name, leads, stored⟩
      exact ⟨column, name, leads, .inr stored⟩
    · rcases List.mem_map.mp isMorph with ⟨morph, derived, rfl⟩
      rw [PlannedTable.ofPivot_blueprint] at keyed ⊢
      rcases MorphTable.exists_leads clean entityMember derived keyed with
        ⟨column, name, leads, stored⟩
      exact ⟨column, name, leads, .inr stored⟩

/-- Only one table of that name is planned, and it is the entity's own. -/
theorem eq_entityTable_of_table_eq {planned : PlannedTable}
    (member : planned ∈ context.plannedTables) {entity : Entity}
    (isEntity : entity ∈ context.schema.entities.values) (same : planned.table = entity.table) :
    planned = context.entityTable entity :=
  ByKey.single_of_nodup PlannedTable.table
    (context.nodup_plannedTables (Schema.nodup_tables_of_clean clean)) planned member _
    (context.entityTable_mem_plannedTables isEntity)
    (same.trans (context.entityTable_table entity).symm)

end Context

/-- Where a foreign key leads to the key of a known entity, that is the entity whose table it
refers to. -/
theorem Context.Leads.target {context : Context} (clean : context.schema.findings = [])
    {blueprint : Blueprint} {foreignKey : ForeignKey} {column name : String}
    (leads : context.Leads blueprint foreignKey column name) {entity : Entity}
    (isEntity : entity ∈ context.schema.entities.values)
    (same : entity.table = foreignKey.referencedTable) :
    context.schema.entity? name = some entity := by
  rcases leads.known with ⟨target, known⟩
  have table : foreignKey.referencedTable = target.table := by
    rw [leads.table, Schema.tableOf, known]
  have isTarget : target = entity :=
    ByKey.single_of_nodup Entity.table (Schema.nodup_tables_of_clean clean) target
      (Schema.mem_values_of_entity? known) entity isEntity (table.symm.trans same.symm)
  rw [known, isTarget]

/-- The table of an entity with a generated key starts with that key, wherever it is in the plan. -/
theorem Context.plan_generated {context : Context} (clean : context.schema.findings = [])
    {entity : Entity} (isEntity : entity ∈ context.schema.entities.values)
    (generated : entity.key ≠ .declared) {base : Timestamp} {target : OrderedTable}
    (member : target ∈ (context.plan base).tables) (same : target.table = entity.table) :
    (target.blueprint.columns.map (·.name)).head? = some "id"
      ∧ target.blueprint.primaryKey = ["id"] := by
  rcases context.exists_planned_of_mem_plan member with ⟨planned, isPlanned, place, rfl⟩
  have isOwn := eq_entityTable_of_table_eq clean isPlanned isEntity same
  have blueprint : planned.blueprint = context.build entity :=
    congrArg PlannedTable.blueprint isOwn
  rcases context.exists_keyColumn? generated with ⟨key, isKey⟩
  rcases context.exists_build_columns_eq_cons isKey with ⟨rest, columns⟩
  rw [OrderedTable.stamp, blueprint, columns, context.build_primaryKey_of_generated isKey,
    List.map_cons, List.head?_cons, context.keyColumn?_name isKey]
  exact ⟨rfl, rfl⟩

/-- A schema without findings leaves no reference in its plan dangling. -/
theorem Schema.resolves_of_mem_foreignKeys {schema : Schema} (clean : schema.findings = [])
    (settings : Settings) (now : Timestamp) {ordered : OrderedTable}
    (member : ordered ∈ (schema.plan settings now).tables) {foreignKey : ForeignKey}
    (keyed : foreignKey ∈ ordered.blueprint.foreignKeys) :
    (schema.plan settings now).Resolves schema settings ordered foreignKey := by
  let context := Context.ofSettings schema settings
  rcases context.exists_planned_of_mem_plan member with ⟨planned, isPlanned, place, rfl⟩
  rcases Context.exists_leads_of_planned clean isPlanned keyed with ⟨column, name, leads, stored⟩
  constructor
  case planned =>
    rcases leads.known with ⟨target, known⟩
    have isTarget := context.entityTable_mem_plannedTables (mem_values_of_entity? known)
    rcases context.exists_mem_plan isTarget (settings.baseTimestamp.getD now) with
      ⟨targetPlace, inPlan⟩
    refine List.mem_map.mpr ⟨_, inPlan, ?_⟩
    rw [leads.table, tableOf, known]
    exact context.entityTable_table target
  case present => exact ⟨column, leads.columns, leads.present⟩
  case toKey =>
    intro entity isEntity same generated
    have known := leads.target clean isEntity same
    refine ⟨?_, fun target inPlan sameTable => ?_⟩
    · rw [leads.referenced, referencedColumn, known]
      exact if_neg generated
    · exact Context.plan_generated clean isEntity generated inPlan (sameTable.trans same.symm)
  case stored =>
    intro entity isEntity same generated
    have known := leads.target clean isEntity same
    refine stored.imp_right fun stores candidate isColumn named => ?_
    rw [leads.columns, List.mem_singleton] at named
    rw [stores candidate isColumn named]
    exact context.reference?_of_known known generated column

/-! Books have an author, who is known by a uuid, and any number of tags. -/

def librarySchema : Schema where
  entities := [
    ("Book", { name := "Book", properties := [
      ("author", .association { relation := .manyToOne, target := "Author" }),
      ("tags", .association { relation := .manyToMany, target := "Tag" })] }),
    ("Author", { name := "Author", options := { key := .uuid } }),
    ("Tag", { name := "Tag", options := { key := .increments } })]

theorem librarySchema_resolves :
    librarySchema.findings = []
      ∧ ∃ books ∈ (librarySchema.plan {} .unixEpoch).tables,
        ∃ author ∈ books.blueprint.foreignKeys, books.table = "books"
          ∧ author.referencedTable = "authors"
          ∧ (librarySchema.plan {} .unixEpoch).Resolves librarySchema {} books author := by
  have clean : librarySchema.findings = [] := by decide +kernel
  have planned : ∃ books ∈ (librarySchema.plan {} .unixEpoch).tables,
      ∃ author ∈ books.blueprint.foreignKeys, books.table = "books"
        ∧ author.referencedTable = "authors" := by decide +kernel
  rcases planned with ⟨books, isPlanned, author, isKey, named, toAuthors⟩
  exact ⟨clean, books, isPlanned, author, isKey, named, toAuthors,
    librarySchema.resolves_of_mem_foreignKeys clean {} .unixEpoch isPlanned isKey⟩

end Migration
