import Migration.Json.Reader
import Migration.Keyed

namespace Migration.Json

/-! Types that documents stand for. `encode` writes a value down as a document, and `decode` reads
it back or says what in the document does not fit. -/

inductive Misfit where
  | notJson
  | unexpected (expected : String)
  | missing (field : String)
  | repeated (field : String)
  | unknown (name : String)
  | rejected (reason : String)
  deriving DecidableEq

def Misfit.message : Misfit → String
  | .notJson => "not a JSON text"
  | .unexpected expected => "expected " ++ expected
  | .missing field => "missing field '" ++ field ++ "'"
  | .repeated field => "repeated field '" ++ field ++ "'"
  | .unknown name => "unknown name '" ++ name ++ "'"
  | .rejected reason => reason

class Encode (α : Type) where
  encode : α → Value

class Decode (α : Type) where
  decode : Value → Except Misfit α

export Encode (encode)
export Decode (decode)

def decodeText (α : Type) [Decode α] (text : String) : Except Misfit α :=
  match Value.ofText? text with
  | some value => decode value
  | none => .error .notJson

/-! ## Plain values -/

variable {α β : Type}

instance : Encode Value := ⟨id⟩

instance : Decode Value := ⟨.ok⟩

instance : Encode Bool := ⟨.bool⟩

instance : Decode Bool where
  decode
    | .bool value => .ok value
    | _ => .error (.unexpected "true or false")

instance : Encode String := ⟨.string⟩

instance : Decode String where
  decode
    | .string text => .ok text
    | _ => .error (.unexpected "a string")

instance : Encode UInt32 := ⟨fun number => .integer number.toNat⟩

/-- A number with a fraction or an exponent is no whole number, whatever its value. -/
instance : Decode UInt32 where
  decode
    | .integer value =>
        if 0 ≤ value ∧ value < UInt32.size then .ok (.ofNat value.toNat)
        else .error (.unexpected "a whole number of 32 bits")
    | _ => .error (.unexpected "a whole number of 32 bits")

instance : Decode Int64 where
  decode
    | .integer value =>
        if fitsInt64 value then .ok (.ofInt value)
        else .error (.unexpected "a whole number of 64 bits")
    | _ => .error (.unexpected "a whole number of 64 bits")

/-! ## Containers -/

instance [Encode α] : Encode (Option α) where
  encode
    | none => .null
    | some value => encode value

instance [Decode α] : Decode (Option α) where
  decode
    | .null => .ok none
    | value => some <$> decode value

instance [Encode α] : Encode (List α) := ⟨fun values => .array (values.map encode)⟩

def decodeItems (decode : Value → Except Misfit α) : Value → Except Misfit (List α)
  | .array items => items.mapM decode
  | _ => .error (.unexpected "an array")

instance [Decode α] : Decode (List α) := ⟨decodeItems decode⟩

instance [Encode α] : Encode (Keyed α) where
  encode entries := .object (entries.map fun (key, value) => (key, encode value))

/-- Of a key given more than once the last value counts. -/
def decodeEntries (decode : Value → Except Misfit α) : Value → Except Misfit (Keyed α)
  | .object members => do
      let entries ← members.mapM fun (key, value) => do return (key, ← decode value)
      return .ofList entries
  | _ => .error (.unexpected "an object")

instance [Decode α] : Decode (Keyed α) := ⟨decodeEntries decode⟩

/-! ## Names

A value of an enumeration is written as its name; the name may also stand alone in an object. -/

def decodeName (named : List (String × α)) : Value → Except Misfit α
  | .string name => find name
  | .object [(name, .null)] => find name
  | _ => .error (.unexpected "a name")
where
  find (name : String) : Except Misfit α :=
    match named.lookup name with
    | some value => .ok value
    | none => .error (.unknown name)

/-! ## Records

A record is an object, in which names that are no field of it are passed over, or an array of its
first fields in their order. -/

abbrev Record := List (String × Value)

def firstRepeated : List String → Option String
  | [] => none
  | name :: rest => if rest.contains name then some name else firstRepeated rest

def decodeRecord (names : List String) : Value → Except Misfit Record
  | .object members =>
      let known := members.filter fun (name, _) => names.contains name
      match firstRepeated (known.map (·.1)) with
      | some name => .error (.repeated name)
      | none => .ok known
  | .array items =>
      if items.length ≤ names.length then .ok (names.zip items)
      else .error (.unexpected "fewer items")
  | _ => .error (.unexpected "an object")

namespace Record

def requiredWith (record : Record) (name : String) (decode : Value → Except Misfit α) :
    Except Misfit α :=
  match record.lookup name with
  | some value => decode value
  | none => .error (.missing name)

def withDefault (record : Record) (name : String) (absent : α)
    (decode : Value → Except Misfit α) : Except Misfit α :=
  match record.lookup name with
  | some value => decode value
  | none => .ok absent

def required [Decode α] (record : Record) (name : String) : Except Misfit α :=
  record.requiredWith name decode

def optional [Decode α] (record : Record) (name : String) : Except Misfit (Option α) :=
  record.withDefault name none decode

def orElse [Decode α] (record : Record) (name : String) (absent : α) : Except Misfit α :=
  record.withDefault name absent decode

end Record

/-! The fields of a record to be written; a field without a value may be left out. -/

def field [Encode α] (name : String) (value : α) : Record :=
  [(name, encode value)]

def optionalField [Encode α] (name : String) : Option α → Record
  | some value => field name value
  | none => []

def listField [Encode α] (name : String) (values : List α) : Record :=
  if values.isEmpty then [] else field name values

def entriesField [Encode α] (name : String) (entries : Keyed α) : Record :=
  if entries.isEmpty then [] else [(name, encode entries)]

/-! ## Tagged records

The tag says which of several records the other fields form. -/

def decodeTagged (tag : String) : Value → Except Misfit (String × Value)
  | .object members =>
      match members.filter (·.1 = tag) with
      | [(_, .string name)] => .ok (name, .object (members.filter (·.1 ≠ tag)))
      | [] => .error (.missing tag)
      | [_] => .error (.unexpected "a name")
      | _ => .error (.repeated tag)
  | _ => .error (.unexpected "an object")

def tagged (tag name : String) (fields : Record) : Value :=
  .object ((tag, .string name) :: fields)

end Migration.Json
