import Migration.Json.Coding

namespace Migration

open Json

/-! The kinds of association between entities. -/

inductive Relation where
  | manyToOne
  | oneToOne
  | oneToMany
  | manyToMany
  | morphTo
  | morphOne
  | morphMany
  | morphToMany
  deriving DecidableEq, Repr

namespace Relation

def name : Relation → String
  | .manyToOne => "many_to_one"
  | .oneToOne => "one_to_one"
  | .oneToMany => "one_to_many"
  | .manyToMany => "many_to_many"
  | .morphTo => "morph_to"
  | .morphOne => "morph_one"
  | .morphMany => "morph_many"
  | .morphToMany => "morph_to_many"

def title : Relation → String
  | .manyToOne => "Many to One"
  | .oneToOne => "One to One"
  | .oneToMany => "One to Many"
  | .manyToMany => "Many to Many"
  | .morphTo => "Morph To"
  | .morphOne => "Morph One"
  | .morphMany => "Morph Many"
  | .morphToMany => "Morph to Many"

def all : List Relation :=
  [.manyToOne, .oneToOne, .oneToMany, .manyToMany, .morphTo, .morphOne, .morphMany, .morphToMany]

/-- The owning side carries a foreign key. -/
def isToOne (relation : Relation) : Bool :=
  relation = .manyToOne || relation = .oneToOne

def needsJoinTable (relation : Relation) : Bool :=
  relation = .manyToMany || relation = .morphToMany

/-- The type at the other end is chosen row by row. -/
def isPolymorphic (relation : Relation) : Bool :=
  [.morphTo, .morphOne, .morphMany, .morphToMany].contains relation

end Relation

instance : Encode Relation := ⟨fun relation => .string relation.name⟩

instance : Decode Relation :=
  ⟨decodeName (Relation.all.map fun relation => (relation.name, relation))⟩

/-! What happens to the rows that refer to a row that goes away or changes its key. -/

inductive ReferentialAction where
  | cascade
  | setNull
  | restrict
  | noAction
  | setDefault
  deriving DecidableEq, Repr

namespace ReferentialAction

def name : ReferentialAction → String
  | .cascade => "cascade"
  | .setNull => "set_null"
  | .restrict => "restrict"
  | .noAction => "no_action"
  | .setDefault => "set_default"

def keyword : ReferentialAction → String
  | .cascade => "cascade"
  | .setNull => "set null"
  | .restrict => "restrict"
  | .noAction => "no action"
  | .setDefault => "set default"

def all : List ReferentialAction := [.cascade, .setNull, .restrict, .noAction, .setDefault]

end ReferentialAction

instance : Encode ReferentialAction := ⟨fun action => .string action.name⟩

instance : Decode ReferentialAction :=
  ⟨decodeName (ReferentialAction.all.map fun action => (action.name, action))⟩

end Migration
