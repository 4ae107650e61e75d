import Migration.Blueprint.Column
import Migration.Text.Blank

namespace Migration

/-! What the names of scalar types stand for. -/

/-- Types of uploads have no column; what they hold is kept elsewhere. -/
inductive ScalarType where
  | column (storage : Storage) (args : StorageArgs)
  | external
  deriving DecidableEq

namespace ScalarType

/-- Names that stand for a storage without a size. -/
def unsized : List (Storage × List String) :=
  [(.text, ["text"]),
   (.mediumText, ["mediumtext", "medium_text"]),
   (.longText, ["longtext", "long_text"]),
   (.tinyInteger, ["int8", "tinyint", "tiny_integer"]),
   (.smallInteger, ["int16", "smallint", "small_integer"]),
   (.integer, ["int", "int32", "integer"]),
   (.bigInteger, ["int64", "bigint", "big_integer"]),
   (.float, ["float", "float32"]),
   (.double, ["double", "float64"]),
   (.boolean, ["bool", "boolean"]),
   (.date, ["date"]),
   (.dateTime, ["datetime"]),
   (.dateTimeTz, ["datetimetz", "datetime_tz"]),
   (.time, ["time"]),
   (.timestamp, ["timestamp"]),
   (.timestampTz, ["timestamptz", "timestamp_tz"]),
   (.year, ["year"]),
   (.json, ["json", "array", "object"]),
   (.jsonb, ["jsonb"]),
   (.uuid, ["uuid"]),
   (.binary, ["binary", "blob", "bytes"])]

/-- Every other name stands for a string. Blanks around a name and the case of its ASCII letters
do not count. -/
def ofName (typeName : String) (hints : TypeHints) (stringLength : UInt32) : ScalarType :=
  let name := String.ofList ((Text.trim typeName.toList).map Char.toLower)
  if ["file", "files", "image", "images"].contains name then .external
  else if ["decimal", "numeric"].contains name then
    .column .decimal
      { precision := some (hints.precision.getD 8), scale := some (hints.scale.getD 2) }
  else if name = "char" then .column .char { length := some (hints.length.getD stringLength) }
  else match unsized.find? (·.2.contains name) with
    | some (storage, _) => .column storage {}
    | none => .column .string { length := some (hints.length.getD stringLength) }

end ScalarType

end Migration
