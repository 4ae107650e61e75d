import Migration.Change
import Migration.Operation.Basic

namespace Migration

/-! The operations for each delta of a change, with those that undo it. What depends on a column
is dropped before it and created after it. -/

structure Group where
  forward : List Operation := []
  backward : List Operation := []
  deriving DecidableEq

def Group.isEmpty (group : Group) : Bool :=
  group.forward.isEmpty && group.backward.isEmpty

def Group.undone (group : Group) : Group :=
  ⟨group.backward, group.forward⟩

def ForeignKey.dropping (foreignKey : ForeignKey) : Operation :=
  .dropForeignKey foreignKey.name foreignKey.columns

def Index.dropping (index : Index) : Operation :=
  .dropIndex index.name index.columns index.unique

namespace Parts

def creating (parts : Parts) : List Operation :=
  parts.columns.map .addColumn ++ parts.foreignKeys.map .addForeignKey
    ++ parts.indexes.map .addIndex

def dropping (parts : Parts) : List Operation :=
  parts.indexes.reverse.map (·.dropping) ++ parts.foreignKeys.reverse.map (·.dropping)
    ++ parts.columns.reverse.map fun column => .dropColumn column.name

/-- From the parts of one definition of a property to those of another. Constraints that change
are dropped and created anew; columns are altered in place. -/
def reshaping (old new : Parts) : List Operation :=
  let staleIndexes := old.indexes.reverse.filter (· ∉ new.indexes)
  let staleKeys := old.foreignKeys.reverse.filter (· ∉ new.foreignKeys)
  let staleColumns := old.columns.reverse.filter fun column =>
    !new.columns.any (·.name = column.name)
  staleIndexes.map (·.dropping) ++ staleKeys.map (·.dropping)
    ++ staleColumns.map (fun column => .dropColumn column.name)
    ++ new.columns.map .alterColumn
    ++ (new.foreignKeys.filter (· ∉ old.foreignKeys)).map .addForeignKey
    ++ (new.indexes.filter (· ∉ old.indexes)).map .addIndex

/-- The constraints follow the columns through their renaming, and keep their names. -/
def renamingColumns (parts : Parts) (pairs : List (String × String)) : Parts :=
  let rename (column : String) : String := (pairs.lookup column).getD column
  { parts with
    foreignKeys := parts.foreignKeys.map fun foreignKey =>
      { foreignKey with columns := foreignKey.columns.map rename }
    indexes := parts.indexes.map fun index => { index with columns := index.columns.map rename } }

end Parts

/-! ## Groups of the deltas -/

namespace Group

def creating (parts : Parts) : Group :=
  ⟨parts.creating, parts.dropping⟩

def reshaping (old new : Parts) : Group :=
  ⟨old.reshaping new, new.reshaping old⟩

def toggle (enabled : Bool) (on off : Operation) : Group :=
  if enabled then ⟨[on], [off]⟩ else ⟨[off], [on]⟩

def addingIndex (index : Index) : Group :=
  ⟨[.addIndex index], [index.dropping]⟩

end Group

namespace Context

/-- The columns that a renaming renames. Without a definition to go by, or where that has no
column, the names alone decide. -/
def renamedColumns (context : Context) (entity table source target : String)
    (definition : Option Property) : List (String × String) :=
  let pairs := match definition with
    | some property =>
        ((context.parts entity table source property).columns.map (·.name)).zip
          ((context.parts entity table target property).columns.map (·.name))
    | none => []
  if pairs.isEmpty then [(Text.snakeCase source, Text.snakeCase target)] else pairs

/-- What a renamed property consists of before it is reshaped: its columns as the new name gives
them, and the constraints it had, over the renamed columns. -/
def renamedParts (context : Context) (entity table source target : String)
    (pairs : List (String × String)) (previous : Property) : Parts :=
  { (context.parts entity table source previous).renamingColumns pairs with
    columns := (context.parts entity table target previous).columns }

/-- Where both definitions are given and differ, the property is reshaped under its new name. -/
def renameGroup (context : Context) (entity table source target : String)
    (declared previous current : Option Property) : Group :=
  let pairs := context.renamedColumns entity table source target
    ((previous.or current).or declared)
  let renames := pairs.map fun (old, new) => Operation.renameColumn old new
  let undone := pairs.reverse.map fun (old, new) => Operation.renameColumn new old
  let reshaped : Group := match previous, current with
    | some previous, some current =>
        if previous.same current then {}
        else
          .reshaping (context.renamedParts entity table source target pairs previous)
            (context.parts entity table target current)
    | _, _ => {}
  ⟨renames ++ reshaped.forward, reshaped.backward ++ undone⟩

/-- The property as the schema declares it stands in for a missing current definition. -/
def propertyGroup (context : Context) (entity table : String) (definition : Option Entity) :
    PropertyChange → Group
  | .added name current => .creating (context.parts entity table name current)
  | .removed name previous => (Group.creating (context.parts entity table name previous)).undone
  | .modified name previous current =>
      match previous, current.or (definition.bind (·.property? name)) with
      | some previous, some current =>
          .reshaping (context.parts entity table name previous)
            (context.parts entity table name current)
      | _, _ => {}
  | .renamed source target previous current =>
      let declared := definition.bind fun entity =>
        (entity.property? target).or (entity.property? source)
      context.renameGroup entity table source target declared previous current

def indexGroup (definition : Option Entity) (table : String) : IndexChange → Group
  | .added index => .addingIndex (physicalIndex definition table index)
  | .removed index => (Group.addingIndex (physicalIndex definition table index)).undone

/-! ## Keys -/

/-- The columns of the key that a strategy gives an entity. -/
def keyColumns (definition : Option Entity) (strategy : KeyStrategy) : List String :=
  if strategy = .declared then
    match definition with
    | some entity => entity.primaryProperties.map (physicalColumn entity)
    | none => []
  else ["id"]

def droppingKey (column : Option Column) (key : List String) : List Operation :=
  (if key.isEmpty then [] else [.dropPrimary key])
    ++ column.toList.map fun column => .dropColumn column.name

def addingKey (column : Option Column) (key : List String) : List Operation :=
  column.toList.map (fun column => .addColumn column.withoutPrimary)
    ++ if key.isEmpty then [] else [.addPrimary key]

/-- Counters of either width are altered in place. Every other change of key drops the old one and
creates the new one. -/
def keyGroup (context : Context) (definition : Option Entity)
    (transition : Transition KeyStrategy) : Group :=
  let old := context.keyColumn? transition.source
  let new := context.keyColumn? transition.target
  let isCounter (strategy : KeyStrategy) : Bool :=
    strategy = .increments || strategy = .bigIncrements
  if isCounter transition.source && isCounter transition.target then
    ⟨new.toList.map .alterColumn, old.toList.map .alterColumn⟩
  else
    let oldKey := keyColumns definition transition.source
    let newKey := keyColumns definition transition.target
    ⟨droppingKey old oldKey ++ addingKey new newKey, droppingKey new newKey ++ addingKey old oldKey⟩

end Context

end Migration
