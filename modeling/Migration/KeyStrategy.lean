import Migration.Json.Coding

namespace Migration

open Json

/-! How the key of a table is stored where another table refers to it. -/

inductive KeyType where
  | int
  | bigInt
  | uuid
  | string
  deriving DecidableEq, Repr

namespace KeyType

def name : KeyType → String
  | .int => "int"
  | .bigInt => "big_int"
  | .uuid => "uuid"
  | .string => "string"

def all : List KeyType := [.int, .bigInt, .uuid, .string]

def isStringFamily (key : KeyType) : Bool :=
  key = .uuid || key = .string

end KeyType

instance : Encode KeyType := ⟨fun key => .string key.name⟩

instance : Decode KeyType := ⟨decodeName (KeyType.all.map fun key => (key.name, key))⟩

/-! How the primary key of an entity comes about: generated in a column `id`, or, with `declared`,
formed by the properties that are flagged as primary. -/

inductive KeyStrategy where
  | increments
  | bigIncrements
  | uuid
  | string
  | declared
  deriving DecidableEq, Repr

namespace KeyStrategy

def name : KeyStrategy → String
  | .increments => "auto_increment_int"
  | .bigIncrements => "auto_increment_big_int"
  | .uuid => "uuid"
  | .string => "string"
  | .declared => "none"

def title : KeyStrategy → String
  | .increments => "Auto-increment (32-bit)"
  | .bigIncrements => "Auto-increment (64-bit)"
  | .uuid => "UUID"
  | .string => "String"
  | .declared => "None"

def all : List KeyStrategy := [.increments, .bigIncrements, .uuid, .string, .declared]

/-- Other names under which a strategy may be given. -/
def synonyms : List (String × KeyStrategy) :=
  [("int", .increments), ("increments", .increments),
   ("bigint", .bigIncrements), ("big_increments", .bigIncrements)]

def keyType? : KeyStrategy → Option KeyType
  | .increments => some .int
  | .bigIncrements => some .bigInt
  | .uuid => some .uuid
  | .string => some .string
  | .declared => none

def isStringFamily (strategy : KeyStrategy) : Bool :=
  strategy = .uuid || strategy = .string

example : all.all fun strategy =>
    strategy.isStringFamily = (strategy.keyType?.map (·.isStringFamily)).getD false := by decide

end KeyStrategy

instance : Encode KeyStrategy := ⟨fun strategy => .string strategy.name⟩

instance : Decode KeyStrategy where
  decode := decodeName
    (KeyStrategy.all.map (fun strategy => (strategy.name, strategy)) ++ KeyStrategy.synonyms)

end Migration
