import Migration.Proofs.Blueprint.Renderable
import Migration.Proofs.Change.RoundTrip
import Migration.Proofs.Plan.Complete
import Migration.Proofs.Plan.Precedence

namespace Migration

/-! What is planned and what a migration does can be rendered: the columns of every table of a
plan, and those that an operation defines, on the way forward and on the way back. -/

/-! ## Derived tables -/

theorem JoinTable.renderable_blueprint (join : JoinTable) (context : Context) :
    RenderableColumns (join.blueprint context).columns := by
  intro column member
  rw [join.blueprint_columns context] at member
  rcases List.mem_map.mp member with ⟨source, kept, rfl⟩
  refine .withoutPrimary ?_
  have given : source ∈ join.keyColumns context ++ join.furtherColumns context :=
    ByKey.addAll_subset _ [] _ kept
  rcases List.mem_append.mp given with key | further
  · rcases List.mem_pair.mp key with rfl | rfl <;>
      exact (context.upTo_referenceColumn _ _).renderable
  · rcases List.mem_append.mp further with field | stamp
    · rcases List.mem_flatMap.mp field with ⟨⟨name, property⟩, _, isPart⟩
      rcases List.mem_map.mp isPart with ⟨plain, isPlain, rfl⟩
      exact .withoutPrimary (context.renderable_plainColumns name property plain isPlain)
    · split at stamp
      case isTrue => exact Context.renderable_timestampColumns source stamp
      case isFalse => contradiction

theorem MorphTable.renderable_blueprint (morph : MorphTable) (context : Context) :
    RenderableColumns (morph.blueprint context).columns := by
  intro column member
  rw [morph.blueprint_columns context] at member
  have given := ByKey.addAll_subset _ _ _ member
  simp only [List.nil_append, List.mem_cons, List.not_mem_nil, or_false] at given
  rcases given with rfl | rfl | rfl
  · exact (context.upTo_referenceColumn _ _).renderable
  · exact (Context.upTo_enumColumn _ _).renderable
  · exact (context.upTo_polymorphicIdColumn _ _).renderable

namespace Context

variable (context : Context)

theorem renderable_plannedTables {planned : PlannedTable}
    (member : planned ∈ context.plannedTables) : RenderableColumns planned.blueprint.columns := by
  rw [plannedTables_eq] at member
  rcases List.mem_append.mp (ByKey.addAll_subset _ _ _ member) with isEntity | isPivot
  · rcases List.mem_map.mp isEntity with ⟨entity, _, rfl⟩
    exact context.renderable_build entity
  · rcases List.mem_flatMap.mp isPivot with ⟨entity, _, pivot⟩
    rcases context.mem_pivotTables.mp pivot with ⟨join, _, rfl⟩ | ⟨morph, _, rfl⟩
    · exact join.renderable_blueprint context
    · exact morph.renderable_blueprint context

end Context

/-! ## Operations -/

namespace Operation

/-- The columns that an operation defines. -/
def columns : Operation → List Column
  | createTable blueprint => blueprint.columns
  | addColumn column => [column]
  | alterColumn column => [column]
  | addTimestamps => timestampColumns
  | addSoftDeletes => [softDeleteColumn]
  | _ => []

/-- The columns that several operations define. -/
def columnsOf (operations : List Operation) : List Column :=
  operations.flatMap columns

@[simp] theorem columnsOf_append (first second : List Operation) :
    columnsOf (first ++ second) = columnsOf first ++ columnsOf second :=
  List.flatMap_append

theorem columnsOf_map_of_columnless {α : Type} (values : List α) {operation : α → Operation}
    (columnless : ∀ value, (operation value).columns = []) :
    columnsOf (values.map operation) = [] := by
  simp [columnsOf, columnless]

theorem columnsOf_map_of_single (given : List Column) {operation : Column → Operation}
    (single : ∀ column, (operation column).columns = [column]) :
    columnsOf (given.map operation) = given := by
  simp [columnsOf, List.flatMap_map, single]

end Operation

open Operation

namespace Parts

variable (parts old new : Parts)

theorem columnsOf_creating : columnsOf parts.creating = parts.columns := by
  rw [creating, columnsOf_append, columnsOf_append, columnsOf_map_of_single _ fun _ => rfl,
    columnsOf_map_of_columnless _ fun _ => rfl, columnsOf_map_of_columnless _ fun _ => rfl,
    List.append_nil, List.append_nil]

theorem columnsOf_dropping : columnsOf parts.dropping = [] := by
  rw [dropping, columnsOf_append, columnsOf_append, columnsOf_map_of_columnless _ fun _ => rfl,
    columnsOf_map_of_columnless _ fun _ => rfl, columnsOf_map_of_columnless _ fun _ => rfl]
  rfl

/-- Only the columns of the new definition are spoken of. -/
theorem columnsOf_reshaping : columnsOf (old.reshaping new) = new.columns := by
  simp only [reshaping, columnsOf_append]
  rw [columnsOf_map_of_columnless _ fun _ => rfl, columnsOf_map_of_columnless _ fun _ => rfl,
    columnsOf_map_of_columnless _ fun _ => rfl, columnsOf_map_of_single _ fun _ => rfl,
    columnsOf_map_of_columnless _ fun _ => rfl, columnsOf_map_of_columnless _ fun _ => rfl,
    List.append_nil, List.append_nil]
  rfl

end Parts

namespace Context

theorem columnsOf_droppingKey (column : Option Column) (key : List String) :
    columnsOf (droppingKey column key) = [] := by
  cases column <;> cases key <;> rfl

theorem columnsOf_addingKey (column : Option Column) (key : List String) :
    columnsOf (addingKey column key) = column.toList.map (·.withoutPrimary) := by
  cases column <;> cases key <;> rfl

end Context

/-- The columns that a group defines on either way. -/
def Group.columns (group : Group) : List Column :=
  columnsOf group.forward ++ columnsOf group.backward

theorem RenderableColumns.append {first second : List Column} (left : RenderableColumns first)
    (right : RenderableColumns second) : RenderableColumns (first ++ second) :=
  List.forall_mem_append.mpr ⟨left, right⟩

theorem renderableColumns_nil : RenderableColumns [] :=
  fun _ => List.not_mem_nil.elim

theorem Group.renderable_reshaping {old new : Parts} (former : RenderableColumns old.columns)
    (latter : RenderableColumns new.columns) : RenderableColumns (reshaping old new).columns := by
  rw [columns, reshaping, old.columnsOf_reshaping, new.columnsOf_reshaping]
  exact latter.append former

theorem Group.renderable_creating {parts : Parts} (renderable : RenderableColumns parts.columns) :
    RenderableColumns (creating parts).columns := by
  rw [columns, creating, parts.columnsOf_creating, parts.columnsOf_dropping]
  exact renderable.append renderableColumns_nil

theorem Group.renderable_undone {group : Group} (renderable : RenderableColumns group.columns) :
    RenderableColumns group.undone.columns :=
  fun column member => renderable column (List.mem_append.mpr (List.mem_append.mp member).symm)

/-- A renaming defines no column. -/
theorem Group.columns_renaming (pairs : List (String × String))
    (forward backward : List Operation) :
    columns ⟨pairs.map (fun pair => .renameColumn pair.1 pair.2) ++ forward,
      backward ++ pairs.reverse.map fun pair => .renameColumn pair.2 pair.1⟩ =
      columns ⟨forward, backward⟩ := by
  rw [columns, columnsOf_append, columnsOf_append, columnsOf_map_of_columnless _ fun _ => rfl,
    columnsOf_map_of_columnless _ fun _ => rfl, List.nil_append, List.append_nil]
  rfl

/-- A key that is built anew stands on a column that does not say so itself. -/
theorem Group.columns_rebuilding (old new : Option Column) (oldKey newKey : List String) :
    columns ⟨Context.droppingKey old oldKey ++ Context.addingKey new newKey,
      Context.droppingKey new newKey ++ Context.addingKey old oldKey⟩ =
      (new.toList ++ old.toList).map (·.withoutPrimary) := by
  rw [columns, columnsOf_append, columnsOf_append, Context.columnsOf_droppingKey,
    Context.columnsOf_droppingKey, Context.columnsOf_addingKey, Context.columnsOf_addingKey,
    List.nil_append, List.nil_append, List.map_append]

namespace Context

variable {context : Context} {change : EntityChange}

theorem renderable_partsOf (name : String) (property : Property) :
    RenderableColumns (context.partsOf change name property).columns :=
  context.renderable_parts _ _ _ _

theorem renderable_keyColumns (context : Context) (strategy : KeyStrategy) :
    RenderableColumns (context.keyColumn? strategy).toList :=
  fun _ made => context.renderable_keyColumn? (Option.mem_toList.mp made)

theorem renderable_property (property : PropertyChange) :
    RenderableColumns (context.stepGroup change (.property property)).columns := by
  cases property with
  | added name current => exact Group.renderable_creating (renderable_partsOf name current)
  | removed name previous =>
      exact Group.renderable_undone (Group.renderable_creating (renderable_partsOf name previous))
  | modified name previous current =>
      rcases context.stepGroup_modified_cases change name previous current with
        ⟨old, new, rfl, after⟩ | ⟨_, idle⟩
      · rw [stepGroup_modified after]
        exact Group.renderable_reshaping (renderable_partsOf name old) (renderable_partsOf name new)
      · rw [idle]
        exact renderableColumns_nil
  | renamed source target previous current =>
      rcases renamed_cases previous current with ⟨old, new, rfl, rfl, differ⟩ | same
      · have former : RenderableColumns
            (context.partsAfterRenaming change source target old new).columns := by
          rw [partsAfterRenaming_columns]
          exact renderable_partsOf target old
        rw [stepGroup_reshaping_renamed differ]
        dsimp only
        rw [Group.columns_renaming]
        exact Group.renderable_reshaping former (renderable_partsOf target new)
      · have plain := Group.columns_renaming
          (context.pairsOf change source target previous current) [] []
        rw [List.append_nil, List.nil_append] at plain
        rw [stepGroup_renamed same, plain]
        exact renderableColumns_nil

theorem renderable_step (step : ChangeStep) :
    RenderableColumns (context.stepGroup change step).columns := by
  cases step with
  | key transition =>
      by_cases counters : transition.source.IsCounter ∧ transition.target.IsCounter
      · rw [stepGroup_counters counters.1 counters.2]
        exact Group.renderable_reshaping (context.renderable_keyColumns transition.source)
          (context.renderable_keyColumns transition.target)
      · have both := (context.renderable_keyColumns transition.target).append
          (context.renderable_keyColumns transition.source)
        rw [stepGroup_rebuilding counters]
        dsimp only
        rw [Group.columns_rebuilding]
        exact List.forall_mem_map.mpr fun column member => (both column member).withoutPrimary
  | property property => exact renderable_property property
  | index index => cases index <;> exact renderableColumns_nil
  | timestamps enabled => cases enabled <;> exact renderable_timestampColumns
  | softDelete enabled =>
      have single : RenderableColumns [softDeleteColumn] :=
        List.forall_mem_singleton.mpr renderable_softDeleteColumn
      cases enabled <;> exact single

/-- The operations of the delta define only columns that can be rendered, on either way. -/
def RenderableDelta (delta : Delta) : Prop :=
  ∀ operation ∈ delta.forward ++ delta.backward, RenderableColumns operation.columns

theorem renderable_delta? {delta : Delta} (made : context.delta? change = some delta) :
    RenderableDelta delta := by
  have ofStep {step : ChangeStep} {operation : Operation}
      (member : operation ∈ (context.stepGroup change step).forward
        ∨ operation ∈ (context.stepGroup change step).backward) :
      RenderableColumns operation.columns := by
    intro column defined
    refine @renderable_step context change step column ?_
    rw [Group.columns, List.mem_append]
    exact member.imp (List.mem_flatMap.mpr ⟨operation, ·, defined⟩)
      (List.mem_flatMap.mpr ⟨operation, ·, defined⟩)
  intro operation member
  rw [← context.forward_of_delta? change made, ← context.backward_of_delta? change made,
    forward_eq, backward_eq] at member
  rcases List.mem_append.mp member with forward | backward
  · rcases List.mem_flatMap.mp forward with ⟨step, _, isForward⟩
    exact ofStep (.inl isForward)
  · rcases List.mem_flatMap.mp backward with ⟨step, _, isBackward⟩
    exact ofStep (.inr isBackward)

theorem renderable_dropDelta (context : Context) (entity : Entity) :
    RenderableDelta (context.dropDelta entity) := by
  intro operation member
  rcases List.mem_pair.mp member with rfl | rfl
  · exact renderableColumns_nil
  · exact context.renderable_build entity

/-- All columns that a plan, a change or a removal makes can be rendered, whatever the schema and
the settings, and whatever is said to have changed. -/
theorem renderable_plan_and_deltas (context : Context) :
    (∀ base, ∀ table ∈ (context.plan base).tables, RenderableColumns table.blueprint.columns)
      ∧ (∀ change, ∀ delta ∈ context.delta? change, RenderableDelta delta)
      ∧ ∀ entity, RenderableDelta (context.dropDelta entity) := by
  refine ⟨fun base table member => ?_, fun change delta made => renderable_delta? made,
    context.renderable_dropDelta⟩
  rcases context.exists_planned_of_mem_plan member with ⟨planned, isPlanned, _, rfl⟩
  exact context.renderable_plannedTables isPlanned

/-! A price that was a whole number gets digits after the point. -/

def productContext : Context :=
  .ofSettings
    { entities := [("Product", { name := "Product", properties := [
        ("price", .scalar {
          typeName := "decimal", unsigned := some true, nullable := true, default := some (.int 0) }),
        ("code", .scalar { typeName := "char", unique := true })] })] } {}

def priceChange : EntityChange where
  entity := "Product"
  columns := [.modified "price" (some (.scalar { typeName := "int", unsigned := some true })) none]

theorem productContext_renderable :
    (∃ table ∈ (productContext.plan .unixEpoch).tables[0]?,
        table.blueprint.columns.map (·.storage) =
            [.bigIncrements, .decimal, .char, .timestamp, .timestamp]
          ∧ RenderableColumns table.blueprint.columns)
      ∧ ∃ delta ∈ productContext.delta? priceChange,
        delta.backward =
            [.alterColumn { name := "price", storage := .integer, modifiers := [.unsigned] }]
          ∧ RenderableDelta delta := by
  have tables : ∃ table ∈ (productContext.plan .unixEpoch).tables[0]?,
      table.blueprint.columns.map (·.storage) =
        [.bigIncrements, .decimal, .char, .timestamp, .timestamp] := by
    decide +kernel
  have deltas : ∃ delta ∈ productContext.delta? priceChange, delta.backward =
      [.alterColumn { name := "price", storage := .integer, modifiers := [.unsigned] }] := by
    decide +kernel
  rcases tables with ⟨table, first, storages⟩
  rcases deltas with ⟨delta, made, backward⟩
  have renderable := productContext.renderable_plan_and_deltas
  exact ⟨⟨table, first, storages, renderable.1 _ table (List.mem_of_getElem? first)⟩,
    delta, made, backward, renderable.2.1 priceChange delta made⟩

end Context

end Migration
