import Migration.Proofs.Pivot.References
import Migration.Proofs.Plan.Precedence

namespace Migration

/-! Every table is planned once: each entity has its own, and of the pivots that entities give rise
to the first of each name is there, unless an entity has a table of that name. -/

/-- A table in its place without its timestamp. -/
def OrderedTable.unstamped (ordered : OrderedTable) : PlannedTable where
  identity := ordered.identity
  table := ordered.table
  entity := ordered.entity
  kind := ordered.kind
  blueprint := ordered.blueprint

/-! ## Pivots -/

@[simp] theorem PlannedTable.ofPivot_table (kind : TableKind) (blueprint : Blueprint) :
    (ofPivot kind blueprint).table = blueprint.table := rfl

theorem PlannedTable.withoutDependencies_ofPivot (kind : TableKind) (blueprint : Blueprint) :
    { ofPivot kind blueprint with dependsOn := [] } = ofPivot kind blueprint := rfl

theorem OrderedTable.of_unstamped_eq_ofPivot {ordered : OrderedTable} {kind : TableKind}
    {blueprint : Blueprint} (same : .ofPivot kind blueprint = ordered.unstamped) :
    ordered.entity = none ∧ ordered.kind = kind ∧ ordered.blueprint = blueprint :=
  ⟨(congrArg PlannedTable.entity same).symm, (congrArg PlannedTable.kind same).symm,
    (congrArg PlannedTable.blueprint same).symm⟩

@[simp] theorem JoinTable.blueprint_table (join : JoinTable) (context : Context) :
    (join.blueprint context).table = join.table := by
  rw [blueprint]
  dsimp only
  rw [Blueprint.addIndexes_eq, Blueprint.addForeignKeys_eq, Blueprint.addColumns_eq]
  rfl

@[simp] theorem MorphTable.blueprint_table (morph : MorphTable) (context : Context) :
    (morph.blueprint context).table = morph.table := by
  rw [blueprint]
  dsimp only
  rw [Blueprint.addIndexes_eq, Blueprint.addForeignKey_eq, Blueprint.addColumns_eq]

namespace Context

variable (context : Context)

theorem mem_pivotTables {entity : Entity} {planned : PlannedTable} :
    planned ∈ context.pivotTables entity ↔
      (∃ join ∈ context.schema.joinTables entity,
        PlannedTable.ofPivot .pivot (join.blueprint context) = planned)
      ∨ ∃ morph ∈ context.schema.morphTables entity,
        PlannedTable.ofPivot .morphPivot (morph.blueprint context) = planned := by
  rw [pivotTables, List.mem_append, List.mem_map, List.mem_map]

theorem kind_of_mem_pivotTables {entity : Entity} {planned : PlannedTable}
    (member : planned ∈ context.pivotTables entity) : planned.kind ≠ .entity := by
  rcases context.mem_pivotTables.mp member with ⟨join, _, rfl⟩ | ⟨morph, _, rfl⟩ <;>
    exact TableKind.noConfusion

theorem dependsOn_of_mem_pivotTables {entity : Entity} {planned : PlannedTable}
    (member : planned ∈ context.pivotTables entity) :
    { planned with dependsOn := [] } = planned := by
  rcases context.mem_pivotTables.mp member with ⟨join, _, rfl⟩ | ⟨morph, _, rfl⟩ <;>
    exact PlannedTable.withoutDependencies_ofPivot ..

/-! ## The whole plan -/

theorem map_unstamped_plan (base : Timestamp) :
    (context.plan base).tables.map (·.unstamped) =
      (arranged context.plannedTables).map fun planned => { planned with dependsOn := [] } := by
  conv_rhs => rw [← List.zipIdx_map_fst 0 (arranged context.plannedTables)]
  rw [plan_tables, List.map_map, List.map_map]
  rfl

/-- The plan holds the planned tables in some order. -/
theorem map_unstamped_plan_perm (base : Timestamp) :
    ((context.plan base).tables.map (·.unstamped)).Perm
      (context.plannedTables.map fun planned => { planned with dependsOn := [] }) := by
  rw [map_unstamped_plan]
  exact (arranged_perm context.plannedTables).map _

/-- The tables of all entities and, beside them, pivots of new and distinct names. -/
theorem exists_pivots_plan (base : Timestamp) : ∃ pivots : List PlannedTable,
    ((context.plan base).tables.map (·.unstamped)).Perm
      (context.schema.entities.values.map (fun entity =>
        .ofEntity entity.name (context.build entity)) ++ pivots)
    ∧ pivots ⊆ context.schema.entities.values.flatMap context.pivotTables
    ∧ (pivots.map (·.table)).Nodup
    ∧ ∀ pivot ∈ pivots, ∀ entity ∈ context.schema.entities.values,
      pivot.table ≠ entity.table := by
  rcases ByKey.exists_new_addAll_eq_append PlannedTable.table
    (context.schema.entities.values.map context.entityTable)
    (context.schema.entities.values.flatMap context.pivotTables) with
    ⟨pivots, given, whole, distinct, free⟩
  refine ⟨pivots, ?_, given, distinct, ?_⟩
  · have perm := context.map_unstamped_plan_perm base
    have same : pivots.map (fun planned => { planned with dependsOn := [] }) = pivots := by
      apply ByKey.map_eq_self
      intro pivot member
      rcases List.mem_flatMap.mp (given member) with ⟨entity, _, isPivot⟩
      exact context.dependsOn_of_mem_pivotTables isPivot
    rw [plannedTables_eq, whole, List.map_append, List.map_map, same] at perm
    exact perm
  · intro pivot member entity isEntity same
    apply free pivot member
    rw [same, ← context.entityTable_table entity]
    exact ByKey.mem_keys_of_mem _ (List.mem_map_of_mem isEntity)

/-- Each pivot has its name in the plan, if not under its own table then under another. -/
theorem table_mem_plan_of_mem_pivotTables {entity : Entity}
    (isEntity : entity ∈ context.schema.entities.values) {pivot : PlannedTable}
    (isPivot : pivot ∈ context.pivotTables entity) (base : Timestamp) :
    pivot.table ∈ (context.plan base).tables.map (·.table) := by
  have names : ((context.plan base).tables.map (·.table)).Perm
      (context.plannedTables.map (·.table)) := by
    have perm := (context.map_unstamped_plan_perm base).map (·.table)
    rwa [List.map_map, List.map_map] at perm
  rw [names.mem_iff, plannedTables_eq]
  apply (ByKey.mem_keys_addAll ..).mpr
  exact .inr (ByKey.mem_keys_of_mem _ (List.mem_flatMap.mpr ⟨entity, isEntity, isPivot⟩))

end Context

/-- Where the tables are some of entities and some others, the kind tells them apart. -/
theorem perm_of_kinds {tables : List OrderedTable} {entities pivots : List PlannedTable}
    (perm : (tables.map (·.unstamped)).Perm (entities ++ pivots))
    (isEntity : ∀ planned ∈ entities, planned.kind = .entity)
    (isPivot : ∀ planned ∈ pivots, planned.kind ≠ .entity) :
    ((tables.filter (·.kind = .entity)).map (·.unstamped)).Perm entities
      ∧ ((tables.filter (·.kind ≠ .entity)).map (·.unstamped)).Perm pivots := by
  constructor
  · have kept := perm.filter fun planned => planned.kind = .entity
    have all : entities.filter (·.kind = .entity) = entities := by simpa using isEntity
    have none : pivots.filter (·.kind = .entity) = [] := by simpa using isPivot
    rwa [List.filter_append, all, none, List.append_nil, List.filter_map] at kept
  · have kept := perm.filter fun planned => planned.kind ≠ .entity
    have none : entities.filter (·.kind ≠ .entity) = [] := by simpa using isEntity
    have all : pivots.filter (·.kind ≠ .entity) = pivots := by simpa using isPivot
    rwa [List.filter_append, all, none, List.nil_append, List.filter_map] at kept

/-- The tables hold one for each entity, be it a name that others share, and beside them only
pivots that entities give rise to: of distinct names, which no entity's table has, and so that no
pivot is missing. -/
structure Schema.PlannedOnce (schema : Schema) (settings : Settings)
    (tables : List OrderedTable) : Prop where
  entities : ((tables.filter (·.kind = .entity)).map (·.unstamped)).Perm
    (schema.entities.values.map fun entity =>
      .ofEntity entity.name ((Context.ofSettings schema settings).build entity))
  pivots : ∀ ordered ∈ tables, ordered.kind ≠ .entity →
    ordered.entity = none ∧ ∃ entity ∈ schema.entities.values,
      (ordered.kind = .pivot ∧ ∃ join ∈ schema.joinTables entity,
        ordered.blueprint = join.blueprint (Context.ofSettings schema settings))
      ∨ (ordered.kind = .morphPivot ∧ ∃ morph ∈ schema.morphTables entity,
        ordered.blueprint = morph.blueprint (Context.ofSettings schema settings))
  distinct : ((tables.filter (·.kind ≠ .entity)).map (·.table)).Nodup
  apart : ∀ ordered ∈ tables, ordered.kind ≠ .entity →
    ∀ entity ∈ schema.entities.values, ordered.table ≠ entity.table
  complete : ∀ entity ∈ schema.entities.values,
    (∀ join ∈ schema.joinTables entity, join.table ∈ tables.map (·.table))
      ∧ ∀ morph ∈ schema.morphTables entity, morph.table ∈ tables.map (·.table)

/-- In the plan of whatever schema every table stands once. -/
theorem Schema.plannedOnce_plan (schema : Schema) (settings : Settings) (now : Timestamp) :
    schema.PlannedOnce settings (schema.plan settings now).tables := by
  let context := Context.ofSettings schema settings
  let base := settings.baseTimestamp.getD now
  rcases context.exists_pivots_plan base with ⟨pivots, perm, given, distinct, apart⟩
  have derived (pivot : PlannedTable) (member : pivot ∈ pivots) :
      ∃ entity ∈ schema.entities.values, pivot ∈ context.pivotTables entity :=
    List.mem_flatMap.mp (given member)
  have ofEntities (planned : PlannedTable) (member : planned ∈ schema.entities.values.map
      fun entity => .ofEntity entity.name (context.build entity)) : planned.kind = .entity := by
    rcases List.mem_map.mp member with ⟨entity, _, rfl⟩
    rfl
  have ofPivots (pivot : PlannedTable) (member : pivot ∈ pivots) : pivot.kind ≠ .entity := by
    rcases derived pivot member with ⟨entity, _, isPivot⟩
    exact context.kind_of_mem_pivotTables isPivot
  have ⟨entitiesPerm, pivotsPerm⟩ := perm_of_kinds perm ofEntities ofPivots
  have pivotMember {ordered : OrderedTable} (member : ordered ∈ (context.plan base).tables)
      (notEntity : ordered.kind ≠ .entity) : ordered.unstamped ∈ pivots :=
    pivotsPerm.mem_iff.mp
      (List.mem_map_of_mem (List.mem_filter.mpr ⟨member, decide_eq_true notEntity⟩))
  constructor
  case entities => exact entitiesPerm
  case pivots =>
    intro ordered member notEntity
    rcases derived _ (pivotMember member notEntity) with ⟨entity, isEntity, isPivot⟩
    rcases context.mem_pivotTables.mp isPivot with ⟨join, joins, same⟩ | ⟨morph, morphs, same⟩
    · have ⟨source, kind, blueprint⟩ := OrderedTable.of_unstamped_eq_ofPivot same
      exact ⟨source, entity, isEntity, .inl ⟨kind, join, joins, blueprint⟩⟩
    · have ⟨source, kind, blueprint⟩ := OrderedTable.of_unstamped_eq_ofPivot same
      exact ⟨source, entity, isEntity, .inr ⟨kind, morph, morphs, blueprint⟩⟩
  case distinct =>
    have names := pivotsPerm.map (·.table)
    rw [List.map_map] at names
    exact names.nodup_iff.mpr distinct
  case apart =>
    intro ordered member notEntity
    exact apart ordered.unstamped (pivotMember member notEntity)
  case complete =>
    intro entity isEntity
    constructor
    · intro join joins
      have isPivot := context.mem_pivotTables.mpr (.inl ⟨join, joins, rfl⟩)
      have inPlan := context.table_mem_plan_of_mem_pivotTables isEntity isPivot base
      rwa [PlannedTable.ofPivot_table, JoinTable.blueprint_table] at inPlan
    · intro morph morphs
      have isPivot := context.mem_pivotTables.mpr (.inr ⟨morph, morphs, rfl⟩)
      have inPlan := context.table_mem_plan_of_mem_pivotTables isEntity isPivot base
      rwa [PlannedTable.ofPivot_table, MorphTable.blueprint_table] at inPlan

end Migration
