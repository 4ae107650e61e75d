import Migration.Pivot.MorphTable
import Migration.Plan.Order
import Migration.Schema.Findings

namespace Migration

open Json

/-! The plan of a schema: all its tables, in the order in which they are created. -/

structure Plan where
  tables : List OrderedTable
  edges : List Edge
  warnings : List String := []
  deriving DecidableEq

namespace Plan

def tableNames (plan : Plan) : List String :=
  plan.tables.map (·.table)

def fileStems (plan : Plan) : List String :=
  plan.tables.map (·.fileStem)

def table? (plan : Plan) (table : String) : Option OrderedTable :=
  plan.tables.find? (·.table = table)

def position? (plan : Plan) (table : String) : Option Nat :=
  plan.tables.findIdx? (·.table = table)

def count (plan : Plan) (kind : TableKind) : Nat :=
  plan.tables.countP (·.kind = kind)

/-- The tables derived from associations, of either kind. -/
def pivotCount (plan : Plan) : Nat :=
  plan.count .pivot + plan.count .morphPivot

end Plan

/-! ## Tables to be planned -/

namespace Context

/-- A join entity follows the two tables that it joins. -/
def entityTable (context : Context) (entity : Entity) : PlannedTable :=
  { PlannedTable.ofEntity entity.name (context.build entity) with
    dependsOn := match entity.options.pivotFor with
      | some pair => [context.schema.tableOf pair.first, context.schema.tableOf pair.second]
      | none => [] }

def pivotTables (context : Context) (entity : Entity) : List PlannedTable :=
  (context.schema.joinTables entity).map (fun join =>
      PlannedTable.ofPivot .pivot (join.blueprint context))
    ++ (context.schema.morphTables entity).map (fun morph =>
      PlannedTable.ofPivot .morphPivot (morph.blueprint context))

/-- A pivot is passed over where a table of its name is planned already. -/
def addPivot (tables : List PlannedTable) (pivot : PlannedTable) : List PlannedTable :=
  if tables.any (·.table = pivot.table) then tables else tables ++ [pivot]

def plannedTables (context : Context) : List PlannedTable :=
  let entities := context.schema.entities.values
  (entities.flatMap context.pivotTables).foldl addPivot (entities.map context.entityTable)

def plan (context : Context) (base : Timestamp) : Plan :=
  let tables := context.plannedTables
  let edges := collectEdges tables
  { tables := orderTables tables edges base
    edges := edges
    warnings := context.schema.findings.map (·.message) }

end Context

/-- The plan under the settings; `now` is the moment of the first migration if they give none. -/
def Schema.plan (schema : Schema) (settings : Settings) (now : Timestamp) : Plan :=
  (Context.ofSettings schema settings).plan (settings.baseTimestamp.getD now)

instance : Encode Plan where
  encode plan := .object (
    field "tables" plan.tables ++ field "edges" plan.edges
      ++ listField "warnings" plan.warnings)

instance : Decode Plan where
  decode value := do
    let record ← decodeRecord ["tables", "edges", "warnings"] value
    return {
      tables := ← record.required "tables"
      edges := ← record.required "edges"
      warnings := ← record.orElse "warnings" [] }

end Migration
