import Migration.Pivot.JoinTable

namespace Migration

open Json

/-! The join tables of polymorphic many-to-many associations: one target, and any of several
declaring entities at the other end. -/

structure MorphTable where
  table : String
  morphName : String
  target : String
  /-- The entities that declare the relation, in the order of the schema. -/
  declarers : List String
  targetColumn : String
  onDelete : ReferentialAction
  onUpdate : ReferentialAction
  deriving DecidableEq

namespace MorphTable

def typeColumn (morph : MorphTable) : String :=
  morph.morphName ++ "_type"

def idColumn (morph : MorphTable) : String :=
  morph.morphName ++ "_id"

def blueprint (morph : MorphTable) (context : Context) : Blueprint :=
  let schema := context.schema
  let columns : List Column :=
    [context.referenceColumn morph.targetColumn (schema.keyTypeOf morph.target),
     { name := morph.typeColumn, storage := .enumeration, args := { values := morph.declarers } },
     context.polymorphicIdColumn morph.idColumn morph.declarers]
  let foreignKey : ForeignKey :=
    { ForeignKey.onColumn morph.table morph.targetColumn (schema.tableOf morph.target)
        (schema.referencedColumn morph.target) with
      onDelete := morph.onDelete
      onUpdate := morph.onUpdate }
  let indexes :=
    [Index.onColumns morph.table [morph.targetColumn, morph.typeColumn, morph.idColumn] true,
     Index.onColumns morph.table [morph.typeColumn, morph.idColumn] false,
     Index.onColumns morph.table [morph.targetColumn] false]
  (({ table := morph.table : Blueprint }.addColumns columns).addForeignKey foreignKey).addIndexes
    indexes

end MorphTable

/-! ## Derivation -/

/-- The declared name of the relation, or else the target with the ending `able`. -/
def Association.relationName (association : Association) : String :=
  match association.morphName with
  | some name => Text.snakeCase name
  | none => Text.snakeCase association.target ++ "able"

def Association.declaresMorph (association : Association) : Bool :=
  association.relation = .morphToMany && !association.isInverse

/-- The first association of an entity that declares the same relation to the same target. -/
def Entity.declaration? (entity : Entity) (target morph : String) : Option Association :=
  (entity.associations.find? fun (_, association) =>
    association.declaresMorph && association.target = target
      && association.relationName = morph).map (·.2)

/-- The entities that declare a relation, each with its declaration. -/
def Schema.declarations (schema : Schema) (target morph : String) :
    List (Entity × Association) :=
  schema.entities.values.filterMap fun entity =>
    (entity.declaration? target morph).map fun association => (entity, association)

def leastName : List String → Option String
  | [] => none
  | name :: names =>
      some (names.foldl (fun least name => if name < least then name else least) name)

/-- The first declarer that is flagged as owning, or else the one with the least name. -/
def morphOwner? (declarations : List (Entity × Association)) : Option String :=
  ((declarations.find? (·.2.owning = some true)).map (·.1.name)).or
    (leastName (declarations.map (·.1.name)))

def Schema.morphTable? (schema : Schema) (entity : Entity) (association : Association) :
    Option MorphTable :=
  let morph := association.relationName
  let declarations := schema.declarations association.target morph
  if association.declaresMorph && morphOwner? declarations = some entity.name then
    some
      { table := association.joinTable.getD (pluralize morph)
        morphName := morph
        target := association.target
        declarers := declarations.map (·.1.name)
        targetColumn := foreignKeyColumn association.target
        onDelete := association.onDelete.getD .cascade
        onUpdate := association.onUpdate.getD .cascade }
  else none

/-- The polymorphic join tables that an entity owns, in the order of its properties. -/
def Schema.morphTables (schema : Schema) (entity : Entity) : List MorphTable :=
  firstOfEach (·.table) (entity.associations.filterMap fun (_, association) =>
    schema.morphTable? entity association)

instance : Encode MorphTable where
  encode morph := .object (
    field "table" morph.table ++ field "morph_name" morph.morphName
      ++ field "target" morph.target ++ field "declarers" morph.declarers
      ++ field "target_column" morph.targetColumn ++ field "on_delete" morph.onDelete
      ++ field "on_update" morph.onUpdate)

end Migration
