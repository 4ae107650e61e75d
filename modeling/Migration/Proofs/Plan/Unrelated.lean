import Migration.Proofs.Keyed
import Migration.Proofs.Plan.Complete
import Migration.Proofs.Plan.Insertion

namespace Migration

/-! What an entity that nothing mentions, and that mentions nothing, leaves as it is: the tables of
all other entities, and the tables derived from their associations. -/

/-- Every entity stands under its own name. -/
def Schema.KeyedByName (schema : Schema) : Prop :=
  ∀ entry ∈ schema.entities, entry.2.name = entry.1

instance (schema : Schema) : Decidable schema.KeyedByName :=
  inferInstanceAs (Decidable (∀ entry ∈ schema.entities, entry.2.name = entry.1))

/-- The entity is new, refers to none and is referred to by none. -/
structure Schema.Unrelated (schema : Schema) (entity : Entity) : Prop where
  fresh : entity.name ∉ schema.entities.keys
  associates_none : entity.associations = []
  joins_none : entity.options.pivotFor = none
  not_target : ∀ other ∈ schema.entities.values, ∀ entry ∈ other.associations,
    entry.2.target ≠ entity.name ∧ entity.name ∉ entry.2.morphTargets
  not_joined : ∀ other ∈ schema.entities.values, ∀ pair ∈ other.options.pivotFor,
    pair.first ≠ entity.name ∧ pair.second ≠ entity.name

namespace Schema

variable {schema : Schema} {entity : Entity}

theorem entity?_addEntity {name : String} (differs : name ≠ entity.name) :
    (schema.addEntity entity).entity? name = schema.entity? name := by
  rw [entity?, addEntity, Keyed.get?_insert, if_neg differs]
  rfl

theorem keyTypeOf_addEntity {name : String} (differs : name ≠ entity.name) :
    (schema.addEntity entity).keyTypeOf name = schema.keyTypeOf name := by
  rw [keyTypeOf, keyTypeOf, entity?_addEntity differs]

theorem tableOf_addEntity {name : String} (differs : name ≠ entity.name) :
    (schema.addEntity entity).tableOf name = schema.tableOf name := by
  rw [tableOf, tableOf, entity?_addEntity differs]

theorem referencedColumn_addEntity {name : String} (differs : name ≠ entity.name) :
    (schema.addEntity entity).referencedColumn name = schema.referencedColumn name := by
  rw [referencedColumn, referencedColumn, entity?_addEntity differs]

theorem Unrelated.values_addEntity (unrelated : schema.Unrelated entity) :
    (schema.addEntity entity).entities.values = schema.entities.values ++ [entity] := by
  rw [addEntity, Keyed.insert_of_not_mem unrelated.fresh]
  simp [Keyed.values]

theorem Unrelated.name_ne (unrelated : schema.Unrelated entity) (keyed : schema.KeyedByName)
    {other : Entity} (member : other ∈ schema.entities.values) : other.name ≠ entity.name := by
  rcases List.mem_map.mp member with ⟨entry, isEntry, rfl⟩
  intro same
  apply unrelated.fresh
  rw [← same, keyed entry isEntry]
  exact List.mem_map_of_mem isEntry

end Schema

namespace Context

variable {context : Context} {entity : Entity}

def addEntity (context : Context) (entity : Entity) : Context :=
  { context with schema := context.schema.addEntity entity }

@[simp] theorem addEntity_schema :
    (context.addEntity entity).schema = context.schema.addEntity entity := rfl

@[simp] theorem addEntity_settings :
    (context.addEntity entity).settings = context.settings := rfl

/-! ## Tables of entities -/

theorem referenceColumn_addEntity :
    (context.addEntity entity).referenceColumn = context.referenceColumn := by
  unfold referenceColumn
  rfl

/-- What is stored with the entity itself depends on the enumerations and the compound types of the
schema alone. -/
theorem plainColumns_addEntity (name : String) (property : Property) :
    (context.addEntity entity).plainColumns name property = context.plainColumns name property := by
  have scalars : (context.addEntity entity).scalarColumn? = context.scalarColumn? := by
    unfold scalarColumn?
    rfl
  have fields : (context.addEntity entity).compoundColumn? = context.compoundColumn? := by
    unfold compoundColumn?
    rfl
  have strings : (context.addEntity entity).stringColumn = context.stringColumn := rfl
  have comments : (context.addEntity entity).comment? = context.comment? := rfl
  have enums : (context.schema.addEntity entity).enums = context.schema.enums := rfl
  have known : (context.schema.addEntity entity).compounds = context.schema.compounds := rfl
  cases property <;>
    simp only [plainColumns, compoundColumns, scalars, fields, strings, comments, addEntity_schema,
      enums, known]

theorem plainParts_addEntity (table name : String) (property : Property) :
    (context.addEntity entity).plainParts table name property =
      context.plainParts table name property := by
  simp only [plainParts, plainColumns_addEntity]

theorem foreignKeyParts_addEntity (table name : String) {association : Association}
    (differs : association.target ≠ entity.name) :
    (context.addEntity entity).foreignKeyParts table name association =
      context.foreignKeyParts table name association := by
  simp only [foreignKeyParts, addEntity_schema, referenceColumn_addEntity,
    Schema.keyTypeOf_addEntity differs, Schema.tableOf_addEntity differs,
    Schema.referencedColumn_addEntity differs]
  rfl

theorem polymorphicIdColumn_addEntity (name : String) {targets : List String}
    (differ : ∀ target ∈ targets, target ≠ entity.name) :
    (context.addEntity entity).polymorphicIdColumn name targets =
      context.polymorphicIdColumn name targets := by
  have keyTypes : targets.map (context.schema.addEntity entity).keyTypeOf =
      targets.map context.schema.keyTypeOf :=
    List.map_congr_left fun target member => Schema.keyTypeOf_addEntity (differ target member)
  simp only [polymorphicIdColumn, addEntity_schema, referenceColumn_addEntity, keyTypes]

section Unrelated

variable (unrelated : context.schema.Unrelated entity)

include unrelated

theorem discoveredTargets_addEntity (owner morph : String) :
    (context.addEntity entity).discoveredTargets owner morph =
      context.discoveredTargets owner morph := by
  simp [discoveredTargets, unrelated.values_addEntity, unrelated.associates_none]

variable (keyed : context.schema.KeyedByName) {other : Entity}
  (member : other ∈ context.schema.entities.values)

include keyed

theorem discoveredTargets_ne {owner morph target : String}
    (discovered : target ∈ context.discoveredTargets owner morph) : target ≠ entity.name := by
  simp only [discoveredTargets, List.contains_iff_mem] at discovered
  rcases mem_foldl_once.mp discovered with none | named
  · contradiction
  · rcases List.mem_map.mp named with ⟨other, isOther, rfl⟩
    exact unrelated.name_ne keyed (List.mem_filter.mp isOther).1

include member

theorem morphParts_addEntity {name : String} {association : Association}
    (declared : (name, association) ∈ other.associations) :
    (context.addEntity entity).morphParts other.name other.table name association =
      context.morphParts other.name other.table name association := by
  have discovered := discoveredTargets_addEntity unrelated other.name (morphName name association)
  simp only [morphParts, discovered]
  rw [polymorphicIdColumn_addEntity]
  · rfl
  · intro target isTarget
    split at isTarget
    case isTrue => exact discoveredTargets_ne unrelated keyed isTarget
    case isFalse =>
      rintro rfl
      exact (unrelated.not_target other member _ declared).2 isTarget

theorem parts_addEntity {name : String} {property : Property}
    (declared : (name, property) ∈ other.properties) :
    (context.addEntity entity).parts other.name other.table name property =
      context.parts other.name other.table name property := by
  cases property with
  | association association =>
      have associated := Entity.mem_associations.mpr declared
      have target := (unrelated.not_target other member _ associated).1
      rw [parts, parts, associationParts?, associationParts?, foreignKeyParts_addEntity _ _ target,
        morphParts_addEntity unrelated keyed member associated]
  | _ => exact plainParts_addEntity other.table name _

theorem build_addEntity : (context.addEntity entity).build other = context.build other := by
  have parts : (context.addEntity entity).propertyParts other = context.propertyParts other := by
    apply List.map_congr_left
    rintro ⟨name, property⟩ isEntry
    refine parts_addEntity unrelated keyed member ?_
    rcases List.mem_append.mp isEntry with plain | association
    · exact (List.mem_filter.mp plain).1
    · exact (List.mem_filter.mp association).1
  have draft : (context.addEntity entity).draftOf other = context.draftOf other := by
    rw [draftOf, draftOf, parts]
    rfl
  rw [build_eq, build_eq, draft]

theorem entityTable_addEntity :
    (context.addEntity entity).entityTable other = context.entityTable other := by
  rw [entityTable, entityTable, build_addEntity unrelated keyed member]
  cases joins : other.options.pivotFor with
  | none => rfl
  | some pair =>
      rcases unrelated.not_joined other member pair joins with ⟨first, second⟩
      simp only [addEntity, Schema.tableOf_addEntity first, Schema.tableOf_addEntity second]

end Unrelated

end Context

/-! ## Derived tables -/

namespace Schema

variable {schema : Schema} {entity : Entity} (unrelated : schema.Unrelated entity)

include unrelated

theorem joinEntity?_addEntity (left right : String) :
    (schema.addEntity entity).joinEntity? left right = schema.joinEntity? left right := by
  have joins : entity.joins left right = false := by
    rw [Entity.joins, unrelated.joins_none]
    rfl
  simp [joinEntity?, unrelated.values_addEntity, joins]

theorem declarations_addEntity (target morph : String) :
    (schema.addEntity entity).declarations target morph = schema.declarations target morph := by
  have declares : entity.declaration? target morph = none := by
    rw [Entity.declaration?, unrelated.associates_none]
    rfl
  simp [declarations, unrelated.values_addEntity, declares]

theorem morphTables_addEntity (other : Entity) :
    (schema.addEntity entity).morphTables other = schema.morphTables other := by
  simp only [morphTables, morphTable?, declarations_addEntity unrelated]

variable {other : Entity} (member : other ∈ schema.entities.values)

include member

/-- No join table is passed over because of the new entity's table. -/
theorem joinTable?_addEntity {property : String} {association : Association}
    (declared : (property, association) ∈ other.associations)
    (apart : ∀ join ∈ schema.joinTable? other property association, join.table ≠ entity.table) :
    (schema.addEntity entity).joinTable? other property association =
      schema.joinTable? other property association := by
  have target := (unrelated.not_target other member _ declared).1
  have side : (schema.addEntity entity).side other property association =
      schema.side other property association := by
    rw [Schema.side, Schema.side, counterpart?, counterpart?, entity?_addEntity target]
  have sideTable : (schema.addEntity entity).joinTableOf other
      (schema.side other property association) =
        schema.joinTableOf other (schema.side other property association) := by
    have sideTarget : (schema.side other property association).association.target ≠ entity.name :=
      target
    rw [joinTableOf, joinTableOf, tableOf_addEntity sideTarget]
  simp only [joinTable?, side, sideTable, joinEntity?_addEntity unrelated,
    unrelated.values_addEntity, List.any_append, List.any_cons, List.any_nil,
    Bool.or_false] at apart ⊢
  by_cases named : entity.table =
      schema.joinTableOf other (schema.side other property association)
  · split at apart
    case isTrue passed =>
      rw [if_pos passed, ← Bool.or_assoc, passed, Bool.true_or]
      rfl
    case isFalse => exact absurd named.symm (apart _ rfl)
  · simp only [named, decide_false, Bool.or_false]

theorem joinTables_addEntity
    (apart : ∀ join ∈ schema.joinTables other, join.table ≠ entity.table) :
    (schema.addEntity entity).joinTables other = schema.joinTables other := by
  rw [joinTables, joinTables]
  congr 1
  apply List.filterMap_congr
  rintro ⟨property, association⟩ declared
  refine joinTable?_addEntity unrelated member declared fun join derived same => ?_
  have given : join ∈ other.associations.filterMap fun entry =>
      schema.joinTable? other entry.1 entry.2 :=
    List.mem_filterMap.mpr ⟨_, declared, derived⟩
  -- It need not be kept itself, but then another of its name is.
  have kept : join.table ∈ ByKey.keys JoinTable.table (schema.joinTables other) :=
    (ByKey.mem_keys_addAll ..).mpr (.inr (ByKey.mem_keys_of_mem _ given))
  rcases (ByKey.mem_keys _).mp kept with ⟨first, isFirst, sameName⟩
  exact apart first isFirst (sameName.trans same)

end Schema

section Pivots

variable {context : Context} {entity : Entity} (unrelated : context.schema.Unrelated entity)
  (keyed : context.schema.KeyedByName) {other : Entity}
  (member : other ∈ context.schema.entities.values)

include unrelated

theorem pivotTables_own : (context.addEntity entity).pivotTables entity = [] := by
  rw [Context.pivotTables, Schema.joinTables, Schema.morphTables, unrelated.associates_none]
  rfl

include keyed member

theorem JoinTable.blueprint_addEntity {join : JoinTable}
    (derived : join ∈ context.schema.joinTables other) :
    join.blueprint (context.addEntity entity) = join.blueprint context := by
  rcases Schema.exists_derivedFrom_of_mem_joinTables derived with
    ⟨property, association, declared, origin⟩
  have owner : join.owner ≠ entity.name := origin.owner ▸ unrelated.name_ne keyed member
  have target : join.target ≠ entity.name :=
    origin.target ▸ (unrelated.not_target other member _ declared).1
  simp only [blueprint, Context.addEntity_schema, Context.addEntity_settings,
    Context.referenceColumn_addEntity, Context.plainColumns_addEntity, List.map_cons, List.map_nil,
    Schema.keyTypeOf_addEntity owner, Schema.keyTypeOf_addEntity target,
    Schema.tableOf_addEntity owner, Schema.tableOf_addEntity target,
    Schema.referencedColumn_addEntity owner, Schema.referencedColumn_addEntity target]
  rfl

theorem MorphTable.blueprint_addEntity {morph : MorphTable}
    (derived : morph ∈ context.schema.morphTables other) :
    morph.blueprint (context.addEntity entity) = morph.blueprint context := by
  rcases Schema.exists_derivedFrom_of_mem_morphTables derived with
    ⟨property, association, declared, origin⟩
  have target : morph.target ≠ entity.name :=
    origin.target ▸ (unrelated.not_target other member _ declared).1
  have declarers : ∀ declarer ∈ morph.declarers, declarer ≠ entity.name := by
    intro declarer declares
    rcases Schema.exists_of_mem_declarers origin declares with ⟨source, isSource, rfl⟩
    exact unrelated.name_ne keyed isSource
  rw [blueprint, blueprint, Context.polymorphicIdColumn_addEntity _ declarers]
  simp only [Context.addEntity_schema, Context.referenceColumn_addEntity,
    Schema.keyTypeOf_addEntity target, Schema.tableOf_addEntity target,
    Schema.referencedColumn_addEntity target]

theorem pivotTables_addEntity
    (apart : ∀ pivot ∈ context.pivotTables other, pivot.table ≠ entity.table) :
    (context.addEntity entity).pivotTables other = context.pivotTables other := by
  have joinsApart : ∀ join ∈ context.schema.joinTables other, join.table ≠ entity.table := by
    intro join derived
    have named := apart _ (context.mem_pivotTables.mpr (.inl ⟨join, derived, rfl⟩))
    rwa [PlannedTable.ofPivot_table, JoinTable.blueprint_table] at named
  rw [Context.pivotTables, Context.pivotTables, Context.addEntity_schema,
    Schema.joinTables_addEntity unrelated member joinsApart,
    Schema.morphTables_addEntity unrelated other]
  refine congrArg₂ _ ?_ ?_
  · apply List.map_congr_left
    intro join derived
    rw [JoinTable.blueprint_addEntity unrelated keyed member derived]
  · apply List.map_congr_left
    intro morph derived
    rw [MorphTable.blueprint_addEntity unrelated keyed member derived]

end Pivots

/-! ## The plan -/

namespace Context

variable {context : Context} {entity : Entity} (unrelated : context.schema.Unrelated entity)

include unrelated

theorem needs_own : ((context.addEntity entity).entityTable entity).needs = [] := by
  have foreignKeys : ((context.addEntity entity).build entity).foreignKeys = [] := by
    apply List.eq_nil_iff_forall_not_mem.mpr
    intro foreignKey member
    rcases exists_entry_of_mem_foreignKeys _ member with ⟨⟨name, property⟩, declared, own⟩
    rcases exists_association_of_mem_foreignKeys _ own with ⟨association, rfl, _⟩
    have associated := Entity.mem_associations.mpr declared
    rw [unrelated.associates_none] at associated
    contradiction
  rw [PlannedTable.needs, entityTable_blueprint, foreignKeys, entityTable, unrelated.joins_none]
  rfl

theorem inserted_plannedTables (keyed : context.schema.KeyedByName)
    (apart : ∀ planned ∈ context.plannedTables, planned.table ≠ entity.table) :
    Inserted [(context.addEntity entity).entityTable entity] context.plannedTables
      (context.addEntity entity).plannedTables := by
  have pivotsApart : ∀ pivot ∈ context.schema.entities.values.flatMap context.pivotTables,
      pivot.table ≠ entity.table := by
    intro pivot member same
    have named : pivot.table ∈ ByKey.keys PlannedTable.table context.plannedTables := by
      rw [plannedTables_eq, ByKey.mem_keys_addAll]
      exact .inr (ByKey.mem_keys_of_mem _ member)
    rcases (ByKey.mem_keys _).mp named with ⟨planned, isPlanned, sameName⟩
    exact apart planned isPlanned (sameName.trans same)
  have entities : context.schema.entities.values.map (context.addEntity entity).entityTable =
      context.schema.entities.values.map context.entityTable :=
    List.map_congr_left fun other member => entityTable_addEntity unrelated keyed member
  have pivots : context.schema.entities.values.flatMap (context.addEntity entity).pivotTables =
      context.schema.entities.values.flatMap context.pivotTables := by
    apply List.flatMap_congr
    intro other member
    exact pivotTables_addEntity unrelated keyed member fun pivot isPivot =>
      pivotsApart pivot (List.mem_flatMap.mpr ⟨other, member, isPivot⟩)
  rw [plannedTables_eq, plannedTables_eq, addEntity_schema, unrelated.values_addEntity,
    List.map_append, List.flatMap_append, entities, pivots, List.map_singleton,
    List.flatMap_singleton, pivotTables_own unrelated, List.append_nil]
  apply (Inserted.atEnd _ _).addAll PlannedTable.table
  intro pivot member
  simpa using pivotsApart pivot member

/-- The new entity's table is put in somewhere, and all the others stay as they are. -/
theorem inserted_plan (keyed : context.schema.KeyedByName)
    (apart : ∀ planned ∈ context.plannedTables,
      planned.table ≠ entity.table ∧ entity.table ∉ planned.needs) (base : Timestamp) :
    Inserted [.ofEntity entity.name ((context.addEntity entity).build entity)]
      ((context.plan base).tables.map (·.unstamped))
      (((context.addEntity entity).plan base).tables.map (·.unstamped)) := by
  have planned := inserted_plannedTables unrelated keyed fun planned member =>
    (apart planned member).1
  have ordered := arranged_apart planned (needs_own unrelated) (by simpa using apart)
  rw [map_unstamped_plan, map_unstamped_plan]
  exact ordered.map fun planned => { planned with dependsOn := [] }

end Context

/-- The table of an unrelated entity comes into the plan once, and nothing else changes in it: not
what is planned, and not the order. -/
theorem Schema.plan_addEntity (schema : Schema) (settings : Settings) (now : Timestamp)
    {entity : Entity} (keyed : schema.KeyedByName) (unrelated : schema.Unrelated entity)
    (unplanned : entity.table ∉ (schema.plan settings now).tableNames)
    (unreferenced : ∀ edge ∈ (schema.plan settings now).edges, edge.source ≠ entity.table) :
    let extended := schema.addEntity entity
    let tables := (extended.plan settings now).tables
    (tables.filter (·.table = entity.table)).map (·.unstamped) =
        [.ofEntity entity.name ((Context.ofSettings extended settings).build entity)]
      ∧ (tables.filter (·.table ≠ entity.table)).map (·.unstamped) =
        (schema.plan settings now).tables.map (·.unstamped) := by
  intro extended tables
  let context := Context.ofSettings schema settings
  let base := settings.baseTimestamp.getD now
  have apart : ∀ planned ∈ context.plannedTables,
      planned.table ≠ entity.table ∧ entity.table ∉ planned.needs := by
    intro planned member
    constructor
    · intro same
      rcases context.exists_mem_plan member base with ⟨place, inPlan⟩
      exact unplanned (same ▸ List.mem_map_of_mem inPlan)
    · intro needed
      exact unreferenced ⟨entity.table, planned.table⟩
        (mem_collectEdges.mpr ⟨planned, member, needed, rfl⟩) rfl
  let blueprint := (Context.ofSettings extended settings).build entity
  have inserted : Inserted [.ofEntity entity.name blueprint]
      ((schema.plan settings now).tables.map (·.unstamped)) (tables.map (·.unstamped)) :=
    Context.inserted_plan unrelated keyed apart base
  have others : ∀ ordered ∈ (schema.plan settings now).tables, ordered.table ≠ entity.table := by
    intro ordered member same
    exact unplanned (same ▸ List.mem_map_of_mem member)
  have own : (PlannedTable.ofEntity entity.name blueprint).table = entity.table :=
    Context.build_table _ entity
  constructor
  · have single := inserted.filter (·.table = entity.table)
    have none : ((schema.plan settings now).tables.map (·.unstamped)).filter
        (·.table = entity.table) = [] := by
      simpa [OrderedTable.unstamped] using others
    rw [none, List.filter_cons_of_pos (by simpa using own), List.filter_nil,
      List.filter_map] at single
    exact List.perm_singleton.mp single.perm
  · have rest := inserted.filter (·.table ≠ entity.table)
    have all : ((schema.plan settings now).tables.map (·.unstamped)).filter
        (·.table ≠ entity.table) = (schema.plan settings now).tables.map (·.unstamped) := by
      simpa [OrderedTable.unstamped] using others
    rw [all, List.filter_cons_of_neg (by simpa using own), List.filter_nil,
      List.filter_map] at rest
    exact rest.eq_of_nil

/-! Fences have nothing to do with chickens and eggs, which refer to each other. -/

def fence : Entity :=
  { name := "Fence", properties := [("height", .scalar { typeName := "int" })] }

theorem farmSchema_plan_addEntity :
    (farmSchema.plan {} .unixEpoch).tableNames = ["posts", "tags", "post_tag", "chickens", "eggs"]
      ∧ ((farmSchema.addEntity fence).plan {} .unixEpoch).tableNames =
        ["posts", "tags", "fences", "post_tag", "chickens", "eggs"]
      ∧ (((farmSchema.addEntity fence).plan {} .unixEpoch).tables.filter
        (·.table ≠ "fences")).map (·.unstamped) =
          (farmSchema.plan {} .unixEpoch).tables.map (·.unstamped) := by
  have unrelated : farmSchema.Unrelated fence :=
    { fresh := by decide
      associates_none := rfl
      joins_none := rfl
      not_target := by decide
      not_joined := by decide }
  have table : fence.table = "fences" := by decide +kernel
  have unchanged := farmSchema.plan_addEntity {} .unixEpoch (by decide) unrelated
    (by decide +kernel) (by decide +kernel)
  rw [table] at unchanged
  exact ⟨by decide +kernel, by decide +kernel, unchanged.2⟩

end Migration
