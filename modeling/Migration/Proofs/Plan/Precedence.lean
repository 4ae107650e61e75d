import Migration.Plan.Basic
import Migration.Proofs.Blueprint.Build
import Migration.Proofs.Plan.Edges

namespace Migration

/-! The order of a whole plan: a table comes after every table that it refers to, if no circle of
references leads to it. -/

@[simp] theorem PlannedTable.ofPivot_blueprint (kind : TableKind) (blueprint : Blueprint) :
    (PlannedTable.ofPivot kind blueprint).blueprint = blueprint := rfl

namespace Context

variable (context : Context)

theorem plannedTables_eq : context.plannedTables =
    ByKey.addAll PlannedTable.table (context.schema.entities.values.map context.entityTable)
      (context.schema.entities.values.flatMap context.pivotTables) := rfl

@[simp] theorem entityTable_table (entity : Entity) :
    (context.entityTable entity).table = entity.table :=
  context.build_table entity

@[simp] theorem entityTable_blueprint (entity : Entity) :
    (context.entityTable entity).blueprint = context.build entity := rfl

/-- Entities of distinct tables have tables of distinct names planned, pivots or not. -/
theorem nodup_plannedTables
    (distinct : (context.schema.entities.values.map (·.table)).Nodup) :
    (context.plannedTables.map (·.table)).Nodup := by
  rw [plannedTables_eq]
  apply ByKey.nodup_addAll
  rw [ByKey.keys, List.map_map]
  simpa [Function.comp_def] using distinct

theorem entityTable_mem_plannedTables {entity : Entity}
    (member : entity ∈ context.schema.entities.values) :
    context.entityTable entity ∈ context.plannedTables := by
  rw [plannedTables_eq]
  exact ByKey.subset_addAll _ _ _ (List.mem_map_of_mem member)

/-- Only tables of entities depend on more than their foreign keys lead to. -/
theorem exists_entity_of_mem_plannedTables {planned : PlannedTable}
    (member : planned ∈ context.plannedTables) :
    (∃ entity ∈ context.schema.entities.values, context.entityTable entity = planned)
      ∨ planned.dependsOn = [] := by
  rw [plannedTables_eq] at member
  rcases List.mem_append.mp (ByKey.addAll_subset _ _ _ member) with isEntity | isPivot
  · exact .inl (List.mem_map.mp isEntity)
  · rcases List.mem_flatMap.mp isPivot with ⟨entity, _, pivotMember⟩
    simp only [pivotTables, List.mem_append, List.mem_map] at pivotMember
    rcases pivotMember with ⟨_, _, rfl⟩ | ⟨_, _, rfl⟩ <;> exact .inr rfl

end Context

/-- The table refers to another by a foreign key, or it joins that one to a third. -/
def Schema.RefersTo (schema : Schema) (ordered : OrderedTable) (table : String) : Prop :=
  (∃ foreignKey ∈ ordered.blueprint.foreignKeys, foreignKey.referencedTable = table)
    ∨ ∃ entity ∈ schema.entities.values, entity.table = ordered.table
      ∧ ∃ pair ∈ entity.options.pivotFor,
        schema.tableOf pair.first = table ∨ schema.tableOf pair.second = table

instance (schema : Schema) (ordered : OrderedTable) (table : String) :
    Decidable (schema.RefersTo ordered table) :=
  inferInstanceAs (Decidable (_ ∨ _))

/-- The later of two planned tables refers to the earlier, which is another one. -/
def Plan.Reference (plan : Plan) (schema : Schema) (earlier later : String) : Prop :=
  earlier ≠ later ∧ earlier ∈ plan.tableNames
    ∧ ∃ ordered ∈ plan.tables, ordered.table = later ∧ schema.RefersTo ordered earlier

instance (plan : Plan) (schema : Schema) (earlier later : String) :
    Decidable (plan.Reference schema earlier later) :=
  inferInstanceAs (Decidable (_ ∧ _))

namespace Context

variable (context : Context)

theorem mem_needs_iff (distinct : (context.schema.entities.values.map (·.table)).Nodup)
    {planned : PlannedTable} (member : planned ∈ context.plannedTables) (base : Timestamp)
    (place : Nat) {need : String} : need ∈ planned.needs ↔
      context.schema.RefersTo (.stamp base planned place) need := by
  rw [PlannedTable.needs, Schema.RefersTo, OrderedTable.stamp]
  rw [List.mem_append, List.mem_map]
  apply or_congr_right
  constructor
  · intro depends
    rcases context.exists_entity_of_mem_plannedTables member with ⟨entity, isEntity, rfl⟩ | none
    · refine ⟨entity, isEntity, (context.entityTable_table entity).symm, ?_⟩
      rw [entityTable] at depends
      dsimp only at depends
      split at depends
      case h_1 pair given =>
        refine ⟨pair, given, ?_⟩
        simpa [eq_comm] using depends
      case h_2 => simp at depends
    · simp [none] at depends
  · rintro ⟨entity, isEntity, sameTable, pair, given, isSide⟩
    have same : planned = context.entityTable entity :=
      ByKey.single_of_nodup PlannedTable.table (context.nodup_plannedTables distinct) planned member
        _ (context.entityTable_mem_plannedTables isEntity)
        (sameTable.symm.trans (context.entityTable_table entity).symm)
    have sides : planned.dependsOn =
        [context.schema.tableOf pair.first, context.schema.tableOf pair.second] := by
      rw [same, entityTable, Option.mem_def.mp given]
    simpa [sides, eq_comm] using isSide

theorem plan_tables (base : Timestamp) : (context.plan base).tables =
    (arranged context.plannedTables).zipIdx.map fun entry => .stamp base entry.1 entry.2 :=
  orderTables_eq context.plannedTables (collectEdges context.plannedTables) base

theorem getElem?_plan {base : Timestamp} {place : Nat} {ordered : OrderedTable}
    (atPlace : (context.plan base).tables[place]? = some ordered) :
    ∃ planned, (arranged context.plannedTables)[place]? = some planned
      ∧ .stamp base planned place = ordered := by
  rw [plan_tables, List.getElem?_map, List.getElem?_zipIdx, Option.map_map] at atPlace
  rcases Option.map_eq_some_iff.mp atPlace with ⟨planned, found, stamped⟩
  exact ⟨planned, found, by simpa using stamped⟩

theorem exists_planned_of_mem_plan {base : Timestamp} {ordered : OrderedTable}
    (member : ordered ∈ (context.plan base).tables) :
    ∃ planned ∈ context.plannedTables, ∃ place, .stamp base planned place = ordered := by
  rcases List.getElem?_of_mem member with ⟨place, atPlace⟩
  rcases context.getElem?_plan atPlace with ⟨planned, found, stamped⟩
  exact ⟨planned, (arranged_perm context.plannedTables).mem_iff.mp (List.mem_of_getElem? found),
    place, stamped⟩

/-- Every planned table has its place in the plan. -/
theorem exists_mem_plan {planned : PlannedTable} (member : planned ∈ context.plannedTables)
    (base : Timestamp) : ∃ place, .stamp base planned place ∈ (context.plan base).tables := by
  have inOrder := (arranged_perm context.plannedTables).mem_iff.mpr member
  rcases List.getElem?_of_mem inOrder with ⟨place, atPlace⟩
  rw [plan_tables]
  refine ⟨place, List.mem_map.mpr ⟨(planned, place), ?_, rfl⟩⟩
  exact List.mem_zipIdx_iff_getElem?.mpr atPlace

end Context

/-- A table comes after another planned table that it refers to, whatever else there is in the
plan, unless a circle of references leads to it. -/
theorem Schema.lt_of_refersTo (schema : Schema) (settings : Settings) (now : Timestamp)
    (distinct : (schema.entities.values.map (·.table)).Nodup) {i j : Nat}
    {earlier later : OrderedTable} (atI : (schema.plan settings now).tables[i]? = some earlier)
    (atJ : (schema.plan settings now).tables[j]? = some later)
    (refers : schema.RefersTo later earlier.table) (differ : earlier.table ≠ later.table)
    (noCircle : ∀ start,
      Relation.TransGen ((schema.plan settings now).Reference schema) start start →
        ¬Relation.ReflTransGen ((schema.plan settings now).Reference schema) start later.table) :
    i < j := by
  let context := Context.ofSettings schema settings
  let base := settings.baseTimestamp.getD now
  rcases context.getElem?_plan atI with ⟨earlierPlanned, earlierAt, rfl⟩
  rcases context.getElem?_plan atJ with ⟨laterPlanned, laterAt, rfl⟩
  have planned {place : Nat} {planned : PlannedTable}
      (found : (arranged context.plannedTables)[place]? = some planned) :
      planned ∈ context.plannedTables :=
    (arranged_perm context.plannedTables).mem_iff.mp (List.mem_of_getElem? found)
  have needed : earlierPlanned.table ∈ laterPlanned.needs :=
    (context.mem_needs_iff distinct (planned laterAt) base j).mpr refers
  have reference : ∀ left right, Needed context.plannedTables left right →
      (schema.plan settings now).Reference schema left right := by
    rintro left right ⟨sidesDiffer, leftMember, rightPlanned, rightMember, rfl, leftNeeded⟩
    rcases List.mem_map.mp leftMember with ⟨leftPlanned, leftPlannedMember, rfl⟩
    rcases context.exists_mem_plan leftPlannedMember base with ⟨leftPlace, leftInPlan⟩
    rcases context.exists_mem_plan rightMember base with ⟨rightPlace, rightInPlan⟩
    exact ⟨sidesDiffer, List.mem_map_of_mem leftInPlan, _, rightInPlan, rfl,
      (context.mem_needs_iff distinct rightMember base rightPlace).mp leftNeeded⟩
  refine lt_of_needed (context.nodup_plannedTables distinct) earlierAt laterAt needed differ ?_
  intro start circle reaches
  exact noCircle start (Relation.TransGen.mono reference _ _ circle)
    (Relation.ReflTransGen.mono reference _ _ reaches)

/-! Chickens and eggs refer to each other, and the table between posts and tags comes out in its
place all the same. -/

def farmSchema : Schema where
  entities := [
    ("Chicken", { name := "Chicken", properties := [("egg", .association
      { relation := .manyToOne, target := "Egg" })] }),
    ("Post", { name := "Post", properties := [("tags", .association
      { relation := .manyToMany, target := "Tag" })] }),
    ("Egg", { name := "Egg", properties := [("chicken", .association
      { relation := .manyToOne, target := "Chicken" })] }),
    ("Tag", { name := "Tag" })]

theorem farmSchema_tags_before_joins :
    (farmSchema.entities.values.map (·.table)).Nodup
      ∧ ∃ earlier ∈ (farmSchema.plan {} .unixEpoch).tables[1]?,
        ∃ later ∈ (farmSchema.plan {} .unixEpoch).tables[2]?,
          earlier.table = "tags" ∧ later.table = "post_tag"
            ∧ farmSchema.RefersTo later earlier.table ∧ 1 < 2 := by
  have distinct : (farmSchema.entities.values.map (·.table)).Nodup := by decide +kernel
  have tables : ∃ earlier ∈ (farmSchema.plan {} .unixEpoch).tables[1]?,
      ∃ later ∈ (farmSchema.plan {} .unixEpoch).tables[2]?,
        earlier.table = "tags" ∧ later.table = "post_tag"
          ∧ farmSchema.RefersTo later earlier.table := by decide +kernel
  rcases tables with ⟨earlier, atEarlier, later, atLater, earlierName, laterName, refers⟩
  have falls : ∀ previous node,
      (farmSchema.plan {} .unixEpoch).Reference farmSchema previous node →
        node ∈ ["posts", "tags", "post_tag"] → previous ∈ ["posts", "tags", "post_tag"]
          ∧ previous.length < node.length := by
    have known : ∀ previous ∈ (farmSchema.plan {} .unixEpoch).tableNames,
        ∀ node ∈ ["posts", "tags", "post_tag"],
          (farmSchema.plan {} .unixEpoch).Reference farmSchema previous node →
            previous ∈ ["posts", "tags", "post_tag"] ∧ previous.length < node.length := by
      decide +kernel
    exact fun previous node reference inside => known previous reference.2.1 node inside reference
  have differ : earlier.table ≠ later.table := by
    rw [earlierName, laterName]
    decide
  have laterInside : later.table ∈ ["posts", "tags", "post_tag"] := by
    rw [laterName]
    decide
  have noCircle := no_circle_of_rank falls laterInside
  exact ⟨distinct, earlier, atEarlier, later, atLater, earlierName, laterName, refers,
    farmSchema.lt_of_refersTo {} .unixEpoch distinct atEarlier atLater refers differ noCircle⟩

end Migration
