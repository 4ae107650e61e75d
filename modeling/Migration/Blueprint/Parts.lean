import Migration.Blueprint.Context

namespace Migration

/-! What each property contributes to the table of its entity. -/

structure Parts where
  columns : List Column := []
  foreignKeys : List ForeignKey := []
  indexes : List Index := []
  deriving DecidableEq

/-! ## Columns of plain properties -/

namespace Context

def annotated (column : Column) (nullable : Bool) (default : Option Literal)
    (comment : Option String) : Column :=
  ((column.withModifierIf nullable .nullable).withDefault? default).withComment? comment

def stringColumn (context : Context) (name : String) : Column :=
  { name := name, storage := .string, args := { length := some context.stringLength } }

def enumColumn (name : String) (values : List String) : Column :=
  { name := name, storage := .enumeration, args := { values := values } }

def scalarColumn? (context : Context) (name : String) (scalar : Scalar)
    (comment : Option String) : Option Column :=
  match ScalarType.ofName scalar.typeName scalar.hints context.stringLength with
  | .external => none
  | .column storage args =>
      let column : Column := { name := Text.snakeCase name, storage := storage, args := args }
      let unsigned := scalar.unsigned = some true && storage.isNumeric
      some <| ((((column.withModifierIf scalar.primary .primary).withModifierIf
          scalar.nullable .nullable).withModifierIf unsigned .unsigned).withModifierIf
          scalar.unique .unique).withDefault? scalar.default
        |>.withComment? comment

/-- What the use of a compound type overrides counts before the field itself, and whether a field
is nullable is decided last by the property. -/
def compoundColumn? (context : Context) (stem : String) (nullable : Bool)
    (override : FieldOverride) (comment : Option String) (part : CompoundField) :
    Option Column :=
  let name := stem ++ "_" ++ part.suffix
  let nullable := (override.nullable.or part.nullable).getD nullable
  let comment := comment.map fun text => text ++ " (" ++ part.suffix ++ ")"
  match part.enumName.bind context.schema.enums.get? with
  | some values => some (annotated (enumColumn name values) nullable none comment)
  | none =>
      let hints : TypeHints :=
        { length := override.hints.length.or part.hints.length
          precision := override.hints.precision.or part.hints.precision
          scale := override.hints.scale.or part.hints.scale }
      match ScalarType.ofName (override.typeName.getD part.typeName) hints context.stringLength with
      | .external => none
      | .column storage args =>
          some (annotated { name := name, storage := storage, args := args } nullable none comment)

def compoundColumns (context : Context) (name : String) (compound : CompoundType)
    (nullable : Bool) (overrides : Keyed FieldOverride) (comment : Option String) :
    List Column :=
  compound.fields.filterMap fun part =>
    context.compoundColumn? (Text.snakeCase name) nullable ((overrides.get? part.suffix).getD {})
      comment part

/-- Associations have no columns of this kind, and neither do types that are kept elsewhere. An
enumeration or a compound type that the schema does not know becomes a string. -/
def plainColumns (context : Context) (name : String) (property : Property) : List Column :=
  let comment := context.comment? property
  let column := Text.snakeCase name
  match property with
  | .scalar scalar =>
      match context.schema.compounds.get? scalar.typeName with
      | some compound => context.compoundColumns name compound scalar.nullable [] comment
      | none => (context.scalarColumn? name scalar comment).toList
  | .enumeration enumeration =>
      [annotated (enumColumn column enumeration.values) enumeration.nullable enumeration.default
        comment]
  | .enumReference reference =>
      let stored := match context.schema.enums.get? reference.enumName with
        | some values => enumColumn column values
        | none => context.stringColumn column
      [annotated stored reference.nullable reference.default comment]
  | .compound use =>
      match context.schema.compounds.get? use.typeName with
      | some compound => context.compoundColumns name compound use.nullable use.overrides comment
      | none => [annotated (context.stringColumn column) use.nullable none comment]
  | .association _ => []

/-! ## Parts of associations -/

/-- A foreign key has an index of its own. Its comment may be empty. -/
def foreignKeyParts (context : Context) (table name : String) (association : Association) :
    Parts :=
  let schema := context.schema
  let columnName := foreignKeyColumn name
  let column := context.referenceColumn columnName (schema.keyTypeOf association.target)
  let comment :=
    if context.settings.comments then association.caption.map (·.resolve context.locales)
    else none
  let foreignKey := ForeignKey.onColumn table columnName (schema.tableOf association.target)
    (schema.referencedColumn association.target)
  { columns := [((column.withModifierIf association.primary .primary).withModifierIf
      association.isNullable .nullable).withComment? comment]
    foreignKeys := [{ foreignKey with
      onDelete := association.onDelete.getD .restrict
      onUpdate := association.onUpdate.getD .cascade }]
    indexes := [Index.onColumns table [columnName] false] }

/-- The entities that lead to `owner` by a polymorphic association of that name, or of none. -/
def discoveredTargets (context : Context) (owner morph : String) : List String :=
  let declares (entity : Entity) : Bool := entity.associations.any fun (_, association) =>
    (association.relation = .morphOne || association.relation = .morphMany)
      && association.target = owner
      && association.morphName.all (Text.snakeCase · = morph)
  ((context.schema.entities.values.filter declares).map (·.name)).foldl
    (fun names name => if names.contains name then names else names ++ [name]) []

/-- A column for the type of the row at the other end and one for its key, both nullable unless
the association says otherwise. -/
def morphParts (context : Context) (entity table name : String) (association : Association) :
    Parts :=
  let morph := morphName name association
  let targets :=
    if association.morphTargets.isEmpty then context.discoveredTargets entity morph
    else association.morphTargets
  let nullable := association.nullable ≠ some false
  let typeName := morph ++ "_type"
  let idName := morph ++ "_id"
  let typeColumn :=
    if targets.isEmpty then context.stringColumn typeName else enumColumn typeName targets
  { columns := [typeColumn.withModifierIf nullable .nullable,
      (context.polymorphicIdColumn idName targets).withModifierIf nullable .nullable]
    indexes := [Index.onColumns table [typeName, idName] false] }

/-- Inverse sides and associations to many contribute nothing here. -/
def associationParts? (context : Context) (entity table name : String)
    (association : Association) : Option Parts :=
  if association.materializesColumn then some (context.foreignKeyParts table name association)
  else if association.relation = .morphTo then
    some (context.morphParts entity table name association)
  else none

/-! ## Parts of any property -/

/-- An index asked for with a scalar is one on its column, if it has exactly one. -/
def plainParts (context : Context) (table name : String) (property : Property) : Parts :=
  let columns := context.plainColumns name property
  let indexes := match property, columns with
    | .scalar scalar, [column] =>
        if scalar.indexed then [Index.onColumns table [column.name] false] else []
    | _, _ => []
  { columns := columns, indexes := indexes }

def parts (context : Context) (entity table name : String) : Property → Parts
  | .association association =>
      (context.associationParts? entity table name association).getD {}
  | property => context.plainParts table name property

end Context

end Migration
