import Migration.Property.Basic

namespace Migration

open Json

/-! Properties as documents, tagged by their kind. Fields that are absent or empty are left out. -/

namespace TypeHints

def fields (hints : TypeHints) : Record :=
  optionalField "length" hints.length ++ optionalField "precision" hints.precision
    ++ optionalField "scale" hints.scale

def ofRecord (record : Record) : Except Misfit TypeHints := do
  return {
    length := ← record.optional "length"
    precision := ← record.optional "precision"
    scale := ← record.optional "scale" }

end TypeHints

namespace Scalar

def fields (scalar : Scalar) : Record :=
  field "type" scalar.typeName ++ scalar.hints.fields ++ field "nullable" scalar.nullable
    ++ field "unique" scalar.unique ++ field "index" scalar.indexed
    ++ field "primary" scalar.primary ++ optionalField "default" scalar.default
    ++ optionalField "unsigned" scalar.unsigned ++ optionalField "display_name" scalar.caption

def fieldNames : List String :=
  ["type", "length", "precision", "scale", "nullable", "unique", "index", "primary", "default",
   "unsigned", "display_name"]

def decode (value : Value) : Except Misfit Scalar := do
  let record ← decodeRecord fieldNames value
  return {
    typeName := ← record.required "type"
    hints := ← TypeHints.ofRecord record
    nullable := ← record.orElse "nullable" false
    unique := ← record.orElse "unique" false
    indexed := ← record.orElse "index" false
    primary := ← record.orElse "primary" false
    default := ← record.optional "default"
    unsigned := ← record.optional "unsigned"
    caption := ← record.optional "display_name" }

end Scalar

namespace Enumeration

def fields (enumeration : Enumeration) : Record :=
  field "values" enumeration.values ++ field "nullable" enumeration.nullable
    ++ optionalField "default" enumeration.default
    ++ optionalField "display_name" enumeration.caption

def decode (value : Value) : Except Misfit Enumeration := do
  let record ← decodeRecord ["values", "nullable", "default", "display_name"] value
  return {
    values := ← record.required "values"
    nullable := ← record.orElse "nullable" false
    default := ← record.optional "default"
    caption := ← record.optional "display_name" }

end Enumeration

namespace EnumReference

def fields (reference : EnumReference) : Record :=
  field "enum" reference.enumName ++ field "nullable" reference.nullable
    ++ optionalField "default" reference.default ++ optionalField "display_name" reference.caption

def decode (value : Value) : Except Misfit EnumReference := do
  let record ← decodeRecord ["enum", "nullable", "default", "display_name"] value
  return {
    enumName := ← record.required "enum"
    nullable := ← record.orElse "nullable" false
    default := ← record.optional "default"
    caption := ← record.optional "display_name" }

end EnumReference

instance : Encode FieldOverride where
  encode override := .object (
    optionalField "type" override.typeName ++ optionalField "length" override.hints.length
      ++ optionalField "nullable" override.nullable
      ++ optionalField "precision" override.hints.precision
      ++ optionalField "scale" override.hints.scale)

instance : Decode FieldOverride where
  decode value := do
    let record ← decodeRecord ["type", "length", "nullable", "precision", "scale"] value
    return {
      typeName := ← record.optional "type"
      hints := ← TypeHints.ofRecord record
      nullable := ← record.optional "nullable" }

namespace CompoundUse

def fields (compound : CompoundUse) : Record :=
  field "type" compound.typeName ++ field "nullable" compound.nullable
    ++ entriesField "field_overrides" compound.overrides
    ++ optionalField "display_name" compound.caption

def decode (value : Value) : Except Misfit CompoundUse := do
  let record ← decodeRecord ["type", "nullable", "field_overrides", "display_name"] value
  return {
    typeName := ← record.required "type"
    nullable := ← record.orElse "nullable" false
    overrides := ← record.orElse "field_overrides" []
    caption := ← record.optional "display_name" }

end CompoundUse

/-! ## Properties within associations -/

mutual
def Property.encoded : Property → Value
  | .scalar scalar => tagged "kind" "scalar" scalar.fields
  | .enumeration enumeration => tagged "kind" "enum" enumeration.fields
  | .enumReference reference => tagged "kind" "enum_ref" reference.fields
  | .association association => tagged "kind" "association" association.fields
  | .compound compound => tagged "kind" "compound" compound.fields

def Association.fields : Association → Record
  | association@{ pivotFields, .. } =>
      field "relation" association.relation ++ field "target" association.target
        ++ optionalField "mapped_by" association.mappedBy
        ++ optionalField "inversed_by" association.inversedBy
        ++ optionalField "join_table" association.joinTable
        ++ optionalField "morph_name" association.morphName
        ++ optionalField "on_delete" association.onDelete
        ++ optionalField "on_update" association.onUpdate
        ++ optionalField "nullable" association.nullable
        ++ optionalField "owning" association.owning
        ++ field "primary" association.primary
        ++ (if pivotFields.isEmpty then []
            else [("pivot_fields", .object (encodedFields pivotFields))])
        ++ listField "morph_targets" association.morphTargets
        ++ optionalField "display_name" association.caption

def encodedFields : List (String × Property) → List (String × Value)
  | [] => []
  | (name, property) :: rest => (name, property.encoded) :: encodedFields rest
end

namespace Association

def fieldNames : List String :=
  ["relation", "target", "mapped_by", "inversed_by", "join_table", "morph_name", "on_delete",
   "on_update", "nullable", "owning", "primary", "pivot_fields", "morph_targets", "display_name"]

def decodeWith (decodeProperty : Value → Except Misfit Property) (value : Value) :
    Except Misfit Association := do
  let record ← decodeRecord fieldNames value
  return {
    relation := ← record.required "relation"
    target := ← record.orElse "target" ""
    mappedBy := ← record.optional "mapped_by"
    inversedBy := ← record.optional "inversed_by"
    joinTable := ← record.optional "join_table"
    morphName := ← record.optional "morph_name"
    onDelete := ← record.optional "on_delete"
    onUpdate := ← record.optional "on_update"
    nullable := ← record.optional "nullable"
    owning := ← record.optional "owning"
    primary := ← record.orElse "primary" false
    pivotFields := ← record.withDefault "pivot_fields" [] (decodeEntries decodeProperty)
    morphTargets := ← record.orElse "morph_targets" []
    caption := ← record.optional "display_name" }

end Association

/-- Properties nest in the pivot fields of associations, at most `depth` deep. -/
def Property.decodeWithin : (depth : Nat) → Value → Except Misfit Property
  | 0, _ => .error (.unexpected "a property")
  | depth + 1, value => do
      match ← decodeTagged "kind" value with
      | ("scalar", fields) => return .scalar (← Scalar.decode fields)
      | ("enum", fields) => return .enumeration (← Enumeration.decode fields)
      | ("enum_ref", fields) => return .enumReference (← EnumReference.decode fields)
      | ("association", fields) =>
          return .association (← Association.decodeWith (decodeWithin depth) fields)
      | ("compound", fields) => return .compound (← CompoundUse.decode fields)
      | (name, _) => throw (.unknown name)

instance : Encode Property := ⟨Property.encoded⟩

/-- No property nests deeper than the document that it is read from. -/
instance : Decode Property := ⟨fun value => Property.decodeWithin value.depth value⟩

instance : Encode Association := ⟨fun association => .object association.fields⟩

instance : Decode Association := ⟨fun value => Association.decodeWith decode value⟩

end Migration
