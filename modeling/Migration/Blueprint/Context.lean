import Migration.Blueprint.Basic
import Migration.Blueprint.ScalarType
import Migration.Schema.Basic
import Migration.Settings

namespace Migration

/-! What blueprints are made from: a schema, the settings of the run, and the locales in which
captions are shown. -/

structure Context where
  schema : Schema
  settings : Settings
  locales : Locales

namespace Context

def ofSettings (schema : Schema) (settings : Settings) : Context :=
  ⟨schema, settings, settings.locales⟩

def stringLength (context : Context) : UInt32 :=
  context.settings.stringLength

/-- The comment on the columns of a property. An empty text is no comment. -/
def comment? (context : Context) (property : Property) : Option String :=
  if context.settings.comments then
    (property.caption?.map (·.resolve context.locales)).filter (· ≠ "")
  else none

end Context

/-! ## Keys -/

/-- The generated column of a strategy. -/
def Context.keyColumn? (context : Context) : KeyStrategy → Option Column
  | .increments => some { name := "id", storage := .increments, modifiers := [.primary] }
  | .bigIncrements => some { name := "id", storage := .bigIncrements, modifiers := [.primary] }
  | .uuid => some { name := "id", storage := .uuid, modifiers := [.primary] }
  | .string => some
      { name := "id", storage := .string, args := { length := some context.stringLength },
        modifiers := [.primary] }
  | .declared => none

/-- A column that refers to a key of the given type. -/
def Context.referenceColumn (context : Context) (name : String) : KeyType → Column
  | .int => { name := name, storage := .unsignedInteger }
  | .bigInt => { name := name, storage := .unsignedBigInteger }
  | .uuid => { name := name, storage := .uuid }
  | .string =>
      { name := name, storage := .string, args := { length := some context.stringLength } }

/-- Long enough for a key of any type written as text. -/
def universalKeyLength : UInt32 := 36

/-- A column for the key of a row in any of the target tables: as their keys if they are all of
one type, and otherwise as text. -/
def Context.polymorphicIdColumn (context : Context) (name : String) (targets : List String) :
    Column :=
  let keys := targets.map context.schema.keyTypeOf
  let first := keys.head?.getD .bigInt
  let text : Column :=
    { name := name, storage := .string, args := { length := some universalKeyLength } }
  if keys.all (· = first) then
    match first with
    | .uuid => text
    | key => context.referenceColumn name key
  else text

/-- The relation name of a polymorphic association. -/
def morphName (property : String) (association : Association) : String :=
  Text.snakeCase (association.morphName.getD property)

/-- The column that a property is found by in its table. -/
def physicalColumn (entity : Entity) (property : String) : String :=
  match entity.property? property with
  | some (.association association) =>
      if association.materializesColumn then foreignKeyColumn property
      else if association.relation = .morphTo then morphName property association ++ "_id"
      else Text.snakeCase property
  | _ => Text.snakeCase property

/-- The column that references to an entity lead to. Only a declared key of a single property is
not called `id`. -/
def Schema.referencedColumn (schema : Schema) (name : String) : String :=
  match schema.entity? name with
  | none => "id"
  | some entity =>
      if entity.key = .declared then
        match entity.primaryProperties with
        | [single] => physicalColumn entity single
        | _ => "id"
      else "id"

end Migration
