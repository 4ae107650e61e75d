import Migration.Compound
import Migration.Entity.Basic

namespace Migration

open Json

/-! Schemas: the entities by name, and the enumerations and compound types that their properties
refer to. A property may refer to an entity, an enumeration or a type that is not there. -/

structure Schema where
  entities : Keyed Entity := []
  enums : Keyed (List String) := []
  compounds : Keyed CompoundType := CompoundType.standard

namespace Schema

def addEntity (schema : Schema) (entity : Entity) : Schema :=
  { schema with entities := schema.entities.insert entity.name entity }

def addEnum (schema : Schema) (name : String) (values : List String) : Schema :=
  { schema with enums := schema.enums.insert name values }

def entity? (schema : Schema) (name : String) : Option Entity :=
  schema.entities.get? name

/-- The place of an entity in declaration order. -/
def position? (schema : Schema) (name : String) : Option Nat :=
  schema.entities.keys.idxOf? name

/-- What refers to an entity that is unknown or has no generated key does so by a big integer. -/
def keyTypeOf (schema : Schema) (entity : String) : KeyType :=
  ((schema.entity? entity).bind (·.key.keyType?)).getD .bigInt

def tableOf (schema : Schema) (entity : String) : String :=
  match schema.entity? entity with
  | some entity => entity.table
  | none => tableName entity

/-- The entity declared as the join entity of two others. -/
def joinEntity? (schema : Schema) (left right : String) : Option Entity :=
  schema.entities.values.find? (·.joins left right)

end Schema

/-! ## Documents

In a document an entity without a name takes its key, and the compound types given there are added
to the standard ones. -/

structure SchemaDocument where
  entities : Keyed Entity
  enums : Keyed (List String) := []
  compounds : Keyed CompoundType := []

def SchemaDocument.schema (document : SchemaDocument) : Schema where
  entities := document.entities.map fun (key, entity) => (key, entity.namedOr key)
  enums := document.enums
  compounds := CompoundType.standard.extend document.compounds

instance : Decode SchemaDocument where
  decode value := do
    let record ← decodeRecord ["entities", "enums", "compound_types"] value
    return {
      entities := ← record.required "entities"
      enums := ← record.orElse "enums" []
      compounds := ← record.orElse "compound_types" [] }

instance : Encode Schema where
  encode schema := .object (
    field "entities" schema.entities ++ entriesField "enums" schema.enums
      ++ field "compound_types" schema.compounds)

instance : Decode Schema := ⟨fun value => SchemaDocument.schema <$> decode value⟩

end Migration
