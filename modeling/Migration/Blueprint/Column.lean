import Migration.Literal
import Migration.Property.Json

namespace Migration

open Json

/-! Columns of a table. -/

/-- How the values of a column are stored. -/
inductive Storage where
  | increments
  | bigIncrements
  | uuid
  | string
  | char
  | text
  | mediumText
  | longText
  | tinyInteger
  | smallInteger
  | integer
  | bigInteger
  | unsignedInteger
  | unsignedBigInteger
  | float
  | double
  | decimal
  | boolean
  | date
  | dateTime
  | dateTimeTz
  | time
  | timestamp
  | timestampTz
  | year
  | json
  | jsonb
  | binary
  | enumeration
  deriving DecidableEq, Repr

namespace Storage

def name : Storage → String
  | .increments => "increments"
  | .bigIncrements => "big_increments"
  | .uuid => "uuid"
  | .string => "string"
  | .char => "char"
  | .text => "text"
  | .mediumText => "medium_text"
  | .longText => "long_text"
  | .tinyInteger => "tiny_integer"
  | .smallInteger => "small_integer"
  | .integer => "integer"
  | .bigInteger => "big_integer"
  | .unsignedInteger => "unsigned_integer"
  | .unsignedBigInteger => "unsigned_big_integer"
  | .float => "float"
  | .double => "double"
  | .decimal => "decimal"
  | .boolean => "boolean"
  | .date => "date"
  | .dateTime => "date_time"
  | .dateTimeTz => "date_time_tz"
  | .time => "time"
  | .timestamp => "timestamp"
  | .timestampTz => "timestamp_tz"
  | .year => "year"
  | .json => "json"
  | .jsonb => "jsonb"
  | .binary => "binary"
  | .enumeration => "enum"

def all : List Storage :=
  [.increments, .bigIncrements, .uuid, .string, .char, .text, .mediumText, .longText,
   .tinyInteger, .smallInteger, .integer, .bigInteger, .unsignedInteger, .unsignedBigInteger,
   .float, .double, .decimal, .boolean, .date, .dateTime, .dateTimeTz, .time, .timestamp,
   .timestampTz, .year, .json, .jsonb, .binary, .enumeration]

def isInteger (storage : Storage) : Bool :=
  [.increments, .bigIncrements, .tinyInteger, .smallInteger, .integer, .bigInteger,
   .unsignedInteger, .unsignedBigInteger].contains storage

def isNumeric (storage : Storage) : Bool :=
  storage.isInteger || [.float, .double, .decimal].contains storage

end Storage

/-- The size of what is stored, or the values that it is one of. -/
structure StorageArgs where
  length : Option UInt32 := none
  precision : Option UInt32 := none
  scale : Option UInt32 := none
  values : List String := []
  deriving DecidableEq

/-- `primary` stands only on a column that is the whole key. -/
inductive Modifier where
  | primary
  | nullable
  | unsigned
  | unique
  | default (value : Literal)
  | comment (text : String)
  deriving DecidableEq

structure Column where
  name : String
  storage : Storage
  args : StorageArgs := {}
  modifiers : List Modifier := []
  deriving DecidableEq

namespace Column

def withLength (column : Column) (length : UInt32) : Column :=
  { column with args := { column.args with length := some length } }

def withPrecision (column : Column) (precision scale : UInt32) : Column :=
  { column with args := { column.args with precision := some precision, scale := some scale } }

def withValues (column : Column) (values : List String) : Column :=
  { column with args := { column.args with values := values } }

def withModifier (column : Column) (modifier : Modifier) : Column :=
  { column with modifiers := column.modifiers ++ [modifier] }

def withModifierIf (column : Column) (condition : Bool) (modifier : Modifier) : Column :=
  if condition then column.withModifier modifier else column

def withDefault? (column : Column) : Option Literal → Column
  | some value => column.withModifier (.default value)
  | none => column

def withComment? (column : Column) : Option String → Column
  | some text => column.withModifier (.comment text)
  | none => column

def renamed (column : Column) (name : String) : Column :=
  { column with name := name }

def withoutPrimary (column : Column) : Column :=
  { column with modifiers := column.modifiers.filter (· ≠ .primary) }

def isPrimary (column : Column) : Bool :=
  column.modifiers.contains .primary

def isNullable (column : Column) : Bool :=
  column.modifiers.contains .nullable

def isUnique (column : Column) : Bool :=
  column.modifiers.contains .unique

def default? (column : Column) : Option Literal :=
  column.modifiers.findSome? fun
    | .default value => some value
    | _ => none

def comment? (column : Column) : Option String :=
  column.modifiers.findSome? fun
    | .comment text => some text
    | _ => none

end Column

/-! Two columns are the same if at most the sign of a zero tells them apart. -/

def Modifier.same : Modifier → Modifier → Bool
  | .default left, .default right => left.same right
  | left, right => left = right

def sameInOrder {α : Type} (same : α → α → Bool) : List α → List α → Bool
  | [], [] => true
  | left :: lefts, right :: rights => same left right && sameInOrder same lefts rights
  | _, _ => false

def Column.same (left right : Column) : Bool :=
  left.name = right.name && left.storage = right.storage && left.args = right.args
    && sameInOrder Modifier.same left.modifiers right.modifiers

/-! ## Documents -/

instance : Encode Storage := ⟨fun storage => .string storage.name⟩

instance : Decode Storage := ⟨decodeName (Storage.all.map fun storage => (storage.name, storage))⟩

instance : Encode StorageArgs where
  encode args := .object (
    optionalField "length" args.length ++ optionalField "precision" args.precision
      ++ optionalField "scale" args.scale ++ listField "values" args.values)

instance : Decode StorageArgs where
  decode value := do
    let record ← decodeRecord ["length", "precision", "scale", "values"] value
    return {
      length := ← record.optional "length"
      precision := ← record.optional "precision"
      scale := ← record.optional "scale"
      values := ← record.orElse "values" [] }

instance : Encode Modifier where
  encode
    | .primary => tagged "modifier" "primary" []
    | .nullable => tagged "modifier" "nullable" []
    | .unsigned => tagged "modifier" "unsigned" []
    | .unique => tagged "modifier" "unique" []
    | .default value => tagged "modifier" "default" (field "value" value)
    | .comment text => tagged "modifier" "comment" (field "value" text)

/-- A modifier without a value of its own may be given the value `null`. -/
instance : Decode Modifier where
  decode value := do
    let (name, fields) ← decodeTagged "modifier" value
    let record ← decodeRecord ["value"] fields
    let plain (modifier : Modifier) : Except Misfit Modifier :=
      match record.lookup "value" with
      | none | some .null => .ok modifier
      | some _ => .error (.unexpected "no value")
    match name with
    | "primary" => plain .primary
    | "nullable" => plain .nullable
    | "unsigned" => plain .unsigned
    | "unique" => plain .unique
    | "default" => return .default (← record.required "value")
    | "comment" => return .comment (← record.required "value")
    | name => throw (.unknown name)

instance : Encode Column where
  encode column := .object (
    field "name" column.name ++ field "method" column.storage ++ field "args" column.args
      ++ listField "modifiers" column.modifiers)

instance : Decode Column where
  decode value := do
    let record ← decodeRecord ["name", "method", "args", "modifiers"] value
    return {
      name := ← record.required "name"
      storage := ← record.required "method"
      args := ← record.orElse "args" {}
      modifiers := ← record.orElse "modifiers" [] }

end Migration
