import Migration.Property.Json

namespace Migration

open Json

/-! Compound types: what one property of such a type is made of, a column for each field. -/

/-- The column of a field is named by the property and the suffix. With `enumName` it takes one of
the values that the schema lists under that name, if it lists any. -/
structure CompoundField where
  suffix : String
  typeName : String
  hints : TypeHints := {}
  nullable : Option Bool := none
  enumName : Option String := none
  deriving DecidableEq

structure CompoundType where
  fields : List CompoundField
  deriving DecidableEq

namespace CompoundType

def field? (compound : CompoundType) (suffix : String) : Option CompoundField :=
  compound.fields.find? (·.suffix = suffix)

/-- The types that every schema starts with. -/
def standard : Keyed CompoundType :=
  [("money", ⟨[
      { suffix := "amount", typeName := "decimal",
        hints := { precision := some 15, scale := some 2 } },
      { suffix := "currency", typeName := "char", hints := { length := some 3 } }]⟩),
   ("address", ⟨[
      { suffix := "postal_code", typeName := "string", hints := { length := some 16 } },
      { suffix := "region", typeName := "string" },
      { suffix := "locality", typeName := "string" },
      { suffix := "street", typeName := "string" },
      { suffix := "building", typeName := "string", nullable := some true }]⟩)]

end CompoundType

instance : Encode CompoundField where
  encode part := .object (
    field "suffix" part.suffix ++ field "type" part.typeName ++ part.hints.fields
      ++ optionalField "nullable" part.nullable ++ optionalField "enum_ref" part.enumName)

instance : Decode CompoundField where
  decode value := do
    let record ← decodeRecord
      ["suffix", "type", "length", "precision", "scale", "nullable", "enum_ref"] value
    return {
      suffix := ← record.required "suffix"
      typeName := ← record.required "type"
      hints := ← TypeHints.ofRecord record
      nullable := ← record.optional "nullable"
      enumName := ← record.optional "enum_ref" }

instance : Encode CompoundType := ⟨fun compound => .object (field "fields" compound.fields)⟩

instance : Decode CompoundType where
  decode value := do
    let record ← decodeRecord ["fields"] value
    return ⟨← record.required "fields"⟩

end Migration
