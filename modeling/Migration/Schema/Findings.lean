import Migration.Schema.Basic

namespace Migration

/-! What is wrong with a schema, entity by entity in declaration order. Findings keep nothing from
being planned. -/

/-- Columns that an index may name although no property does: those that tables get of
themselves, and what looks like a reference. -/
def isImplicitColumn (column : String) : Bool :=
  ["id", "created_at", "updated_at", "deleted_at"].contains column
    || column.endsWith "_id" || column.endsWith "_type"

namespace Schema

/-- The entities that an association can lead to. -/
def associationTargets (association : Association) : List String :=
  if association.relation = .morphTo then association.morphTargets else [association.target]

def associationFaults (schema : Schema) (association : Association) : List String :=
  ((associationTargets association).filter fun target =>
      target ≠ "" && (schema.entity? target).isNone).map
    (fun target => "Association target '" ++ target ++ "' is not defined")
  ++ match association.mappedBy, schema.entity? association.target with
    | some property, some target =>
        if (target.property? property).isNone then
          ["mapped_by '" ++ property ++ "' does not exist on '" ++ target.name ++ "'"]
        else []
    | _, _ => []

/-- The names in a property that the schema does not know. -/
def propertyFaults (schema : Schema) : Property → List String
  | .enumReference reference =>
      if schema.enums.contains reference.enumName then []
      else ["Unknown enum '" ++ reference.enumName ++ "'"]
  | .compound compound =>
      if schema.compounds.contains compound.typeName then []
      else ["Unknown compound type '" ++ compound.typeName ++ "'"]
  | .association association => schema.associationFaults association
  | _ => []

def keyFindings (key : String) (entity : Entity) : List Failure :=
  if key = entity.name then []
  else [.invalidEntity key
    ("Entity is keyed as '" ++ key ++ "' but named '" ++ entity.name ++ "'")]

/-- `earlier` are the entities before this one. -/
def tableFindings (earlier : List Entity) (entity : Entity) : List Failure :=
  match earlier.find? (·.table = entity.table) with
  | some first => [.duplicateTable entity.table first.name entity.name]
  | none => []

def propertyFindings (schema : Schema) (entity : Entity) : List Failure :=
  entity.properties.flatMap fun (name, property) =>
    (schema.propertyFaults property).map (.invalidProperty entity.name name)

def pivotFindings (schema : Schema) (entity : Entity) : List Failure :=
  match entity.options.pivotFor with
  | none => []
  | some pair =>
      ([pair.first, pair.second].filter (schema.entity? · |>.isNone)).map fun side =>
        .invalidEntity entity.name ("pivot_for references unknown entity '" ++ side ++ "'")

def indexFindings (entity : Entity) : List Failure :=
  let columns := (entity.options.indexes.map (·.columns) ++ entity.options.unique).flatten
  (columns.filter fun column =>
      (entity.property? column).isNone && !isImplicitColumn column).map fun column =>
    .invalidEntity entity.name ("Index references unknown property '" ++ column ++ "'")

def findingsAfter (schema : Schema) (earlier : List Entity) : Keyed Entity → List Failure
  | [] => []
  | (key, entity) :: rest =>
      keyFindings key entity ++ entity.findings ++ tableFindings earlier entity
        ++ schema.propertyFindings entity ++ schema.pivotFindings entity ++ indexFindings entity
        ++ schema.findingsAfter (earlier ++ [entity]) rest

def findings (schema : Schema) : List Failure :=
  schema.findingsAfter [] schema.entities

end Schema

end Migration
