import Migration.Pivot.MorphTable
import Migration.Proofs.ByKey

namespace Migration

/-! What the tables that stand between entities take from the associations that they are derived
from. Nothing that is proved of these tables looks at how they are derived beyond this. -/

theorem mem_firstOfEach {α : Type} {key : α → String} {values : List α} {value : α} :
    value ∈ firstOfEach key values ↔ ByKey.find? key values (key value) = some value :=
  ByKey.mem_addAll_nil key

theorem mem_of_mem_firstOfEach {α : Type} {key : α → String} {values : List α} {value : α}
    (member : value ∈ firstOfEach key values) : value ∈ values :=
  (ByKey.mem_of_find? key (mem_firstOfEach.mp member)).1

/-! ## Join tables between two entities -/

/-- The join table of one many-to-many property, for which neither a declared join entity nor the
table of an entity stands in. -/
structure JoinTable.DerivedFrom (join : JoinTable) (schema : Schema) (entity : Entity)
    (property : String) (association : Association) : Prop where
  relation : association.relation = .manyToMany
  owns : (schema.side entity property association).owns = true
  owner : join.owner = entity.name
  target : join.target = association.target
  table : join.table = schema.joinTableOf entity (schema.side entity property association)
  localColumn : join.localColumn = foreignKeyColumn entity.name
  foreignColumn :
    join.foreignColumn = distinctForeignColumn join.localColumn join.target property
  noJoinEntity : ∀ other ∈ schema.entities.values, other.joins join.owner join.target = false
  free : ∀ other ∈ schema.entities.values, other.table ≠ join.table

theorem distinctForeignColumn_ne (localColumn target property : String) :
    distinctForeignColumn localColumn target property ≠ localColumn := by
  rw [distinctForeignColumn]
  split
  case isTrue differs => exact differs
  case isFalse =>
    split
    case isTrue differs => exact differs
    case isFalse =>
      intro same
      have lengths := congrArg String.length same
      simp at lengths

theorem JoinTable.DerivedFrom.apart {join : JoinTable} {schema : Schema} {entity : Entity}
    {property : String} {association : Association}
    (derived : join.DerivedFrom schema entity property association) :
    join.localColumn ≠ join.foreignColumn := by
  rw [derived.foreignColumn]
  exact (distinctForeignColumn_ne join.localColumn join.target property).symm

namespace Schema

variable {schema : Schema} {entity : Entity}

theorem derivedFrom_of_joinTable? {property : String} {association : Association}
    {join : JoinTable} (given : schema.joinTable? entity property association = some join) :
    join.DerivedFrom schema entity property association := by
  rw [joinTable?] at given
  split at given
  case isTrue => contradiction
  case isFalse stays =>
    simp only [Bool.or_eq_true, not_or, decide_eq_true_eq, ne_eq, not_not, Bool.not_eq_true',
      Bool.not_eq_false, Bool.not_eq_true, Option.isSome_eq_false_iff, Option.isNone_iff_eq_none,
      List.any_eq_false] at stays
    rcases stays with ⟨⟨⟨relation, owns⟩, noJoinEntity⟩, free⟩
    rw [← Option.some.inj given]
    exact {
      relation := relation
      owns := owns
      owner := rfl
      target := rfl
      table := rfl
      localColumn := rfl
      foreignColumn := by dsimp only
      noJoinEntity := fun other isEntity => by
        simpa using List.find?_eq_none.mp noJoinEntity other isEntity
      free := free }

theorem exists_derivedFrom_of_mem_joinTables {join : JoinTable}
    (member : join ∈ schema.joinTables entity) :
    ∃ property association, (property, association) ∈ entity.associations
      ∧ join.DerivedFrom schema entity property association := by
  rcases List.mem_filterMap.mp (mem_of_mem_firstOfEach member) with
    ⟨⟨property, association⟩, declared, given⟩
  exact ⟨property, association, declared, derivedFrom_of_joinTable? given⟩

end Schema

/-! ## Polymorphic join tables -/

/-- The join table of a polymorphic many-to-many relation, derived for the declarer that owns it. -/
structure MorphTable.DerivedFrom (morph : MorphTable) (schema : Schema) (entity : Entity)
    (association : Association) : Prop where
  declares : association.declaresMorph = true
  target : morph.target = association.target
  morphName : morph.morphName = association.relationName
  owner : morphOwner? (schema.declarations morph.target morph.morphName) = some entity.name
  declarers : morph.declarers =
    (schema.declarations morph.target morph.morphName).map (·.1.name)
  targetColumn : morph.targetColumn = foreignKeyColumn morph.target

theorem MorphTable.DerivedFrom.relation {morph : MorphTable} {schema : Schema} {entity : Entity}
    {association : Association} (derived : morph.DerivedFrom schema entity association) :
    association.relation = .morphToMany := by
  have declares := derived.declares
  simp only [Association.declaresMorph, Bool.and_eq_true, decide_eq_true_eq] at declares
  exact declares.1

namespace Schema

variable {schema : Schema} {entity : Entity}

theorem derivedFrom_of_morphTable? {association : Association} {morph : MorphTable}
    (given : schema.morphTable? entity association = some morph) :
    morph.DerivedFrom schema entity association := by
  rw [morphTable?] at given
  split at given
  case isTrue owned =>
    simp only [Bool.and_eq_true, decide_eq_true_eq] at owned
    rw [← Option.some.inj given]
    exact {
      declares := owned.1
      target := rfl
      morphName := rfl
      owner := owned.2
      declarers := rfl
      targetColumn := rfl }
  case isFalse => contradiction

theorem exists_derivedFrom_of_mem_morphTables {morph : MorphTable}
    (member : morph ∈ schema.morphTables entity) :
    ∃ property association, (property, association) ∈ entity.associations
      ∧ morph.DerivedFrom schema entity association := by
  rcases List.mem_filterMap.mp (mem_of_mem_firstOfEach member) with
    ⟨⟨property, association⟩, declared, given⟩
  exact ⟨property, association, declared, derivedFrom_of_morphTable? given⟩

theorem exists_of_mem_declarers {association : Association} {morph : MorphTable}
    (derived : morph.DerivedFrom schema entity association) {declarer : String}
    (declares : declarer ∈ morph.declarers) :
    ∃ source ∈ schema.entities.values, source.name = declarer := by
  rw [derived.declarers] at declares
  rcases List.mem_map.mp declares with ⟨declaration, declared, rfl⟩
  rcases List.mem_filterMap.mp declared with ⟨source, isSource, given⟩
  rcases Option.map_eq_some_iff.mp given with ⟨_, _, rfl⟩
  exact ⟨source, isSource, rfl⟩

end Schema

end Migration
