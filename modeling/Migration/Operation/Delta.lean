import Migration.Operation.Group

namespace Migration

open Json

/-! The operations that bring a table from one version of its entity to the next, and back. -/

structure Delta where
  table : String
  forward : List Operation
  backward : List Operation
  deriving DecidableEq

def Delta.isEmpty (delta : Delta) : Bool :=
  delta.forward.isEmpty && delta.backward.isEmpty

namespace Context

def optionGroups {α : Type} [DecidableEq α] (transition : Option (Transition α))
    (group : Transition α → Group) : List Group :=
  ((transition.filter (·.isChange)).map group).toList

def tableOfChange (context : Context) (change : EntityChange) : String :=
  change.table.getD (context.schema.tableOf change.entity)

/-- The key first, then the columns, the indexes and the options. -/
def groups (context : Context) (change : EntityChange) : List Group :=
  let definition := context.schema.entity? change.entity
  let table := context.tableOfChange change
  optionGroups change.options.key (context.keyGroup definition)
    ++ change.columns.map (context.propertyGroup change.entity table definition)
    ++ change.indexes.map (indexGroup definition table)
    ++ optionGroups change.options.timestamps (fun transition =>
      .toggle transition.target .addTimestamps .dropTimestamps)
    ++ optionGroups change.options.softDelete (fun transition =>
      .toggle transition.target .addSoftDeletes .dropSoftDeletes)

/-- The way back undoes the groups from the last to the first. A change without an operation is
none. -/
def delta? (context : Context) (change : EntityChange) : Option Delta :=
  let groups := (context.groups change).filter (!·.isEmpty)
  if groups.isEmpty then none
  else
    some
      { table := context.tableOfChange change
        forward := groups.flatMap (·.forward)
        backward := groups.reverse.flatMap (·.backward) }

/-- The way back creates the whole table again. -/
def dropDelta (context : Context) (entity : Entity) : Delta :=
  let blueprint := context.build entity
  { table := blueprint.table
    forward := [.dropTable blueprint.table]
    backward := [.createTable blueprint] }

end Context

instance : Encode Delta where
  encode delta := .object (
    field "table" delta.table ++ field "forward" delta.forward
      ++ field "backward" delta.backward)

instance : Decode Delta where
  decode value := do
    let record ← decodeRecord ["table", "forward", "backward"] value
    return {
      table := ← record.required "table"
      forward := ← record.required "forward"
      backward := ← record.required "backward" }

end Migration
