import Migration.Proofs.Pivot.JoinTable

namespace Migration

/-! Two ends that take each other for counterparts: which of them own the join table, and what it is
called. -/

theorem joinTableName_comm (first second : String) :
    joinTableName first second = joinTableName second first := by
  rw [joinTableName, joinTableName]
  by_cases lesser : singularize first ≤ singularize second
  · by_cases greater : singularize second ≤ singularize first
    · simp [String.le_antisymm lesser greater]
    · simp [lesser, greater]
  · have greater := (String.le_total _ _).resolve_left lesser
    simp [lesser, greater]

namespace Schema

/-- A counterpart is one of the target's associations, and leads back. -/
theorem of_counterpart? {schema : Schema} {entity target : Entity} {property : String}
    {association : Association} (known : schema.entity? association.target = some target)
    {other : String × Association}
    (found : schema.counterpart? entity property association = some other) :
    other ∈ target.associations
      ∧ association.pointsBack entity property target other.1 other.2 = true := by
  rw [counterpart?, known] at found
  change Option.or _ _ = _ at found
  have candidate : other ∈ target.associations.filter fun entry =>
      association.pointsBack entity property target entry.1 entry.2 := by
    rcases Option.or_eq_some_iff.mp found with claimed | ⟨_, silent⟩
    · rcases Option.or_eq_some_iff.mp claimed with named | ⟨_, naming⟩
      · rcases Option.bind_eq_some_iff.mp named with ⟨_, _, isNamed⟩
        exact List.mem_of_find?_eq_some isNamed
      · exact List.mem_of_find?_eq_some naming
    · exact List.mem_of_find?_eq_some silent
  exact List.mem_filter.mp candidate

theorem table_of_joinTable? {schema : Schema} {entity : Entity} {property : String}
    {association : Association} {join : JoinTable}
    (derived : schema.joinTable? entity property association = some join) :
    join.table = schema.joinTableOf entity (schema.side entity property association) :=
  (derivedFrom_of_joinTable? derived).table

/-- Two ends of many-to-many associations, perhaps of one entity, that are each other's
counterparts. -/
structure Paired (schema : Schema) (near far : JoinEnd) : Prop where
  relation : near.association.relation = .manyToMany
  known : schema.entity? near.association.target = some far.entity
  otherKnown : schema.entity? far.association.target = some near.entity
  counterpart : schema.counterpart? near.entity near.property near.association =
    some (far.property, far.association)
  otherCounterpart : schema.counterpart? far.entity far.property far.association =
    some (near.property, near.association)

namespace Paired

variable {schema : Schema} {near far : JoinEnd} (paired : schema.Paired near far)

include paired

theorem pointsBack : far.association.relation = .manyToMany
    ∧ far.association.target = near.entity.name
    ∧ (far.entity.name = near.entity.name → far.property ≠ near.property) := by
  have ⟨_, pointsBack⟩ := of_counterpart? paired.known paired.counterpart
  simpa [Association.pointsBack, paired.relation, and_assoc, or_iff_not_imp_left] using pointsBack

theorem symm : schema.Paired far near where
  relation := paired.pointsBack.1
  known := paired.otherKnown
  otherKnown := paired.known
  counterpart := paired.otherCounterpart
  otherCounterpart := paired.counterpart

theorem opposes : (schema.endSide near).Opposes (schema.endSide far) where
  counterpart := paired.counterpart
  otherCounterpart := paired.otherCounterpart
  target := paired.symm.pointsBack.2.1
  otherTarget := paired.pointsBack.2.1
  apart same := (paired.pointsBack.2.2 same.symm).symm

theorem joinTableOf_eq : schema.joinTableOf near.entity (schema.endSide near) =
    (near.association.joinTable.or far.association.joinTable).getD
      (joinTableName near.entity.table far.entity.table) := by
  have table : schema.tableOf near.association.target = far.entity.table := by
    rw [tableOf, paired.known]
  rw [joinTableOf, paired.opposes.counterpart]
  change (near.association.joinTable.or far.association.joinTable).getD
    (joinTableName near.entity.table (schema.tableOf near.association.target)) = _
  rw [table]

/-- Both ends have the same name for the join table, unless they give it two. -/
theorem joinTableOf_eq_iff :
    schema.joinTableOf near.entity (schema.endSide near) =
        schema.joinTableOf far.entity (schema.endSide far) ↔
      ∀ name ∈ near.association.joinTable, ∀ other ∈ far.association.joinTable, name = other := by
  rw [paired.joinTableOf_eq, paired.symm.joinTableOf_eq, joinTableName_comm far.entity.table]
  cases near.association.joinTable with
  | none => cases far.association.joinTable <;> simp
  | some name => cases far.association.joinTable <;> simp

/-- The table is never owned from both ends, but where both are flagged as owning or both list
fields; and its name does not depend on the end that it is derived from, but where the ends give it
two names. -/
theorem owns_and_owns_iff_and_joinTableOf_eq_iff :
    ((schema.endSide near).owns = true ∧ (schema.endSide far).owns = true ↔
        (near.association.owning = some true ∧ far.association.owning = some true)
          ∨ (schema.endSide near).ClaimsByFields ∧ (schema.endSide far).ClaimsByFields)
      ∧ (schema.joinTableOf near.entity (schema.endSide near) =
          schema.joinTableOf far.entity (schema.endSide far) ↔
        ∀ name ∈ near.association.joinTable, ∀ other ∈ far.association.joinTable, name = other)
      ∧ ∀ joinEnd ∈ [near, far],
        ∀ join ∈ schema.joinTable? joinEnd.entity joinEnd.property joinEnd.association,
          join.table = schema.joinTableOf joinEnd.entity (schema.endSide joinEnd) :=
  ⟨paired.opposes.owns_and_owns_iff, paired.joinTableOf_eq_iff,
    fun _ _ _ derived => table_of_joinTable? derived⟩

end Paired

end Schema

/-! People follow each other and have friends. Who follows and who is followed describes one
relation, though nothing but the names of the properties tells its two ends apart. -/

def follows : Association where
  relation := .manyToMany
  target := "Person"
  inversedBy := some "followers"

def followerEnd (property : String) (association : Association) : JoinEnd where
  entity :=
    { name := "Person"
      properties := [
        ("friends", .association { relation := .manyToMany, target := "Person" }),
        ("following", .association follows),
        ("followers", .association { relation := .manyToMany, target := "Person" })] }
  property := property
  association := association

def followersEnd : JoinEnd :=
  followerEnd "followers" { relation := .manyToMany, target := "Person" }

def followingEnd : JoinEnd :=
  followerEnd "following" follows

def followerSchema : Schema where
  entities := [("Person", followersEnd.entity)]

theorem followerSchema_owned_once :
    followerSchema.Paired followersEnd followingEnd
      ∧ ¬((followerSchema.endSide followersEnd).owns = true
        ∧ (followerSchema.endSide followingEnd).owns = true)
      ∧ followerSchema.joinTableOf followersEnd.entity (followerSchema.endSide followersEnd) =
        followerSchema.joinTableOf followingEnd.entity (followerSchema.endSide followingEnd) := by
  have paired : followerSchema.Paired followersEnd followingEnd := ⟨rfl, rfl, rfl, rfl, rfl⟩
  have verdicts := paired.owns_and_owns_iff_and_joinTableOf_eq_iff
  refine ⟨paired, fun both => ?_, verdicts.2.1.mpr (by decide)⟩
  rcases verdicts.1.mp both with ⟨flag, _⟩ | ⟨⟨_, _, fields⟩, _⟩
  · exact absurd flag (by decide)
  · exact absurd fields (by decide)

end Migration
