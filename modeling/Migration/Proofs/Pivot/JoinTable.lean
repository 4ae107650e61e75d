import Migration.Proofs.Pivot.Derivation
import Migration.Proofs.Pivot.Ownership

namespace Migration

/-! The join table between two entities whose many-to-many associations to each other are one on
either side. It is derived from an end that owns it, unless an earlier association of the same
entity has taken its name. -/

/-! ## The first of each name -/

/-- The only value that is wanted stays if nothing before it has its key. -/
theorem exists_mem_firstOfEach_iff {α : Type} (key : α → String) (wanted : α → Prop)
    {before after : List α} {value : α} (isWanted : wanted value)
    (onlyWanted : ∀ other ∈ before ++ after, ¬wanted other) :
    (∃ kept ∈ firstOfEach key (before ++ value :: after), wanted kept) ↔
      ∀ earlier ∈ before, key earlier ≠ key value := by
  constructor
  · rintro ⟨kept, member, keptWanted⟩ earlier isEarlier same
    have found := mem_firstOfEach.mp member
    have given := mem_of_mem_firstOfEach member
    have isValue : kept = value := by
      by_contra differs
      refine onlyWanted kept ?_ keptWanted
      simpa [differs] using given
    have present : key value ∈ ByKey.keys key before := same ▸ ByKey.mem_keys_of_mem key isEarlier
    rw [isValue, ByKey.find?_append] at found
    cases foundBefore : ByKey.find? key before (key value) with
    | none => exact (ByKey.find?_eq_none key).mp foundBefore present
    | some other =>
        rw [foundBefore, Option.some_or] at found
        have isBefore := (ByKey.mem_of_find? key foundBefore).1
        rw [Option.some.inj found] at isBefore
        exact onlyWanted value (List.mem_append_left _ isBefore) isWanted
  · intro free
    have vacant : ByKey.find? key before (key value) = none := by
      rw [ByKey.find?_eq_none]
      intro present
      rcases (ByKey.mem_keys key).mp present with ⟨earlier, isEarlier, same⟩
      exact free earlier isEarlier same
    refine ⟨value, mem_firstOfEach.mpr ?_, isWanted⟩
    rw [ByKey.find?_append, vacant, Option.none_or, ByKey.find?_cons, if_pos rfl]

/-! ## Join tables between two entities -/

/-- The table stands between the two entities, whichever of them owns it. -/
def JoinTable.Links (join : JoinTable) (left right : String) : Prop :=
  (join.owner = left ∧ join.target = right) ∨ (join.owner = right ∧ join.target = left)

instance (join : JoinTable) (left right : String) : Decidable (join.Links left right) :=
  inferInstanceAs (Decidable (_ ∨ _))

theorem JoinTable.links_comm (join : JoinTable) (left right : String) :
    join.Links left right ↔ join.Links right left :=
  or_comm

theorem JoinEnd.IsOnly.exists_split {near : JoinEnd} {target : String}
    (only : near.IsOnly target) : ∃ after,
      near.entity.associations =
        near.entity.associations.takeWhile (!·.2.joinsTo target)
          ++ (near.property, near.association) :: after
      ∧ ∀ entry ∈ near.entity.associations.takeWhile (!·.2.joinsTo target) ++ after,
        entry.2.joinsTo target = false := by
  rcases List.filter_eq_cons_iff.mp only with ⟨before, after, split, none, joins, restNone⟩
  have taken : near.entity.associations.takeWhile (!·.2.joinsTo target) = before := by
    rw [split, List.takeWhile_append_of_pos, List.takeWhile_cons_of_neg, List.append_nil]
    · simpa using joins
    · simpa using none
  refine ⟨after, by rw [taken]; exact split, ?_⟩
  rw [taken]
  intro entry member
  rcases List.mem_append.mp member with isBefore | isAfter
  · simpa using none entry isBefore
  · simpa using List.filter_eq_nil_iff.mp restNone entry isAfter

namespace Schema

/-- An association that the entity declares before has a join table of the same name. -/
def Forestalled (schema : Schema) (near : JoinEnd) : Prop :=
  ∃ earlier ∈ near.entity.associations.takeWhile (!·.2.joinsTo near.association.target),
    ∃ join ∈ schema.joinTable? near.entity earlier.1 earlier.2,
      join.table = schema.joinTableOf near.entity (schema.endSide near)

instance (schema : Schema) (near : JoinEnd) : Decidable (schema.Forestalled near) :=
  inferInstanceAs (Decidable (∃ _ ∈ _, ∃ _ ∈ _, _))

/-- Neither a join entity nor a table of an entity stands in for the join table of an end. -/
structure Unreplaced (schema : Schema) (near : JoinEnd) : Prop where
  joinEntity : ∀ entity ∈ schema.entities.values,
    entity.joins near.entity.name near.association.target = false
  table : ∀ entity ∈ schema.entities.values,
    entity.table ≠ schema.joinTableOf near.entity (schema.endSide near)

theorem exists_joinTable? {schema : Schema} {near : JoinEnd}
    (relation : near.association.relation = .manyToMany)
    (owned : (schema.endSide near).owns = true) (unreplaced : schema.Unreplaced near) :
    ∃ join, schema.joinTable? near.entity near.property near.association = some join
      ∧ join.owner = near.entity.name ∧ join.target = near.association.target
      ∧ join.table = schema.joinTableOf near.entity (schema.endSide near) := by
  have noJoinEntity : schema.joinEntity? near.entity.name near.association.target = none :=
    List.find?_eq_none.mpr fun entity member => by simp [unreplaced.joinEntity entity member]
  have noTable : schema.entities.values.any (·.table =
      schema.joinTableOf near.entity (schema.endSide near)) = false := by
    simpa using unreplaced.table
  rw [endSide] at owned noTable ⊢
  rw [joinTable?, relation, owned, noJoinEntity, noTable]
  exact ⟨_, rfl, rfl, rfl, rfl⟩

namespace Facing

variable {schema : Schema} {near far : JoinEnd} (facing : schema.Facing near far)

include facing

theorem joinsTo_of_links {entry : String × Association} {join : JoinTable}
    (derived : join.DerivedFrom schema near.entity entry.1 entry.2)
    (links : join.Links near.entity.name far.entity.name) :
    entry.2.joinsTo far.entity.name = true := by
  rcases links with ⟨_, toFar⟩ | ⟨fromFar, _⟩
  · simp [Association.joinsTo, derived.relation, ← derived.target, toFar]
  · exact absurd (derived.owner.symm.trans fromFar) facing.apart

theorem owns_of_links {join : JoinTable} (member : join ∈ schema.joinTables near.entity)
    (links : join.Links near.entity.name far.entity.name) :
    (schema.endSide near).owns = true := by
  rcases exists_derivedFrom_of_mem_joinTables member with
    ⟨property, association, isAssociation, derived⟩
  have kept : (property, association) ∈
      near.entity.associations.filter (·.2.joinsTo far.entity.name) :=
    List.mem_filter.mpr ⟨isAssociation, facing.joinsTo_of_links derived links⟩
  rw [facing.only] at kept
  rcases Prod.mk.inj (List.mem_singleton.mp kept) with ⟨rfl, rfl⟩
  exact derived.owns

/-- Of the associations of an entity only that of the end leads to the other one, so its join table
is the one that is wanted among those derived. -/
theorem exists_links_iff_of_owns (owned : (schema.endSide near).owns = true)
    (unreplaced : schema.Unreplaced near) :
    (∃ join ∈ schema.joinTables near.entity,
        join.Links near.entity.name far.entity.name) ↔ ¬schema.Forestalled near := by
  have ⟨relation, target⟩ := facing.only.joinsTo
  let derive (entry : String × Association) : Option JoinTable :=
    schema.joinTable? near.entity entry.1 entry.2
  rcases exists_joinTable? relation owned unreplaced with
    ⟨join, derived, owner, toTarget, table⟩
  rcases facing.only.exists_split with ⟨after, split, others⟩
  rw [Forestalled, target]
  generalize near.entity.associations.takeWhile (!·.2.joinsTo far.entity.name) = before
    at split others ⊢
  have ownDerived : derive (near.property, near.association) = some join := derived
  have made : near.entity.associations.filterMap derive =
      before.filterMap derive ++ join :: after.filterMap derive := by
    rw [split, List.filterMap_append, List.filterMap_cons, ownDerived]
  have links : join.Links near.entity.name far.entity.name :=
    .inl ⟨owner, toTarget.trans target⟩
  have onlyLinks : ∀ other ∈ before.filterMap derive ++ after.filterMap derive,
      ¬other.Links near.entity.name far.entity.name := by
    intro other member otherLinks
    rw [← List.filterMap_append] at member
    rcases List.mem_filterMap.mp member with ⟨entry, isOther, otherDerived⟩
    simpa [others entry isOther] using
      facing.joinsTo_of_links (derivedFrom_of_joinTable? otherDerived) otherLinks
  have stays := exists_mem_firstOfEach_iff JoinTable.table
    (fun other => other.Links near.entity.name far.entity.name) links onlyLinks
  rw [← made, table] at stays
  refine stays.trans ?_
  simp only [List.mem_filterMap, not_exists, not_and, Option.mem_def, forall_exists_index,
    and_imp]
  exact ⟨fun free entry isEarlier other otherDerived => free other entry isEarlier otherDerived,
    fun free other entry isEarlier otherDerived => free entry isEarlier other otherDerived⟩

/-- An end that owns the join table has it derived, if nothing forestalls it; another end never. -/
theorem exists_links_iff
    (unreplaced : (schema.endSide near).owns = true → schema.Unreplaced near) :
    (∃ join ∈ schema.joinTables near.entity,
        join.Links near.entity.name far.entity.name) ↔
      (schema.endSide near).owns = true ∧ ¬schema.Forestalled near := by
  constructor
  · rintro ⟨join, member, links⟩
    have owned := facing.owns_of_links member links
    exact ⟨owned,
      (facing.exists_links_iff_of_owns owned (unreplaced owned)).mp ⟨join, member, links⟩⟩
  · rintro ⟨owned, free⟩
    exact (facing.exists_links_iff_of_owns owned (unreplaced owned)).mpr free

/-- Two entities with one many-to-many association to each other on either side. Of the two ends at
least one owns the join table, exactly if they do not contradict each other; and the table is there
exactly if an end that owns it is not forestalled. -/
theorem owns_and_exists_links_iff
    (claimed : ¬(near.association.owning = some false ∧ far.association.owning = some false))
    (unreplaced : ∀ joinEnd ∈ [near, far], (schema.endSide joinEnd).owns = true →
      schema.Unreplaced joinEnd) :
    ((∃ joinEnd ∈ [near, far], (schema.endSide joinEnd).owns = true) ↔
        ¬near.Contradicts far ∧ ¬far.Contradicts near)
      ∧ ((∃ join ∈ schema.joinTables near.entity ++ schema.joinTables far.entity,
          join.Links near.entity.name far.entity.name) ↔
        ∃ joinEnd ∈ [near, far], (schema.endSide joinEnd).owns = true
          ∧ ¬schema.Forestalled joinEnd) := by
  have fromNear := facing.exists_links_iff (unreplaced near (by simp))
  have fromFar := facing.symm.exists_links_iff (unreplaced far (by simp))
  simp only [JoinTable.links_comm _ far.entity.name] at fromFar
  refine ⟨?_, ?_⟩
  · rw [← facing.owns_or_owns_iff claimed]
    simp
  · simp only [List.mem_append, or_and_right, exists_or, fromNear, fromFar, List.mem_cons,
      List.not_mem_nil, or_false, exists_eq_left]

end Facing

/-! Users belong to groups in a role, and groups have users as their members. -/

def groupEnd (members : Association) : JoinEnd where
  entity := { name := "Group", properties := [("members", .association members)] }
  property := "members"
  association := members

def userEnd (groups : Association) : JoinEnd where
  entity :=
    { name := "User",
      properties := [
        ("founded", .association { relation := .oneToMany, target := "Group" }),
        ("tags", .association
          { relation := .manyToMany, target := "Tag", joinTable := some "links" }),
        ("groups", .association groups)] }
  property := "groups"
  association := groups

def clubSchema (members groups : Association) : Schema where
  entities := [("Group", (groupEnd members).entity), ("User", (userEnd groups).entity),
    ("Tag", { name := "Tag" })]

theorem clubSchema_facing {members groups : Association}
    (toUsers : members.joinsTo "User" = true) (toGroups : groups.joinsTo "Group" = true)
    (names : members.Names "groups") (otherNames : groups.Names "members")
    (oneInverse : members.isInverse = false ∨ groups.isInverse = false) :
    (clubSchema members groups).Facing (groupEnd members) (userEnd groups) where
  apart := by simp [groupEnd, userEnd]
  known := rfl
  otherKnown := rfl
  only := by
    change [("members", members)].filter (·.2.joinsTo "User") = [("members", members)]
    simp [toUsers]
  otherOnly := by
    change ([("founded", { relation := .oneToMany, target := "Group" }),
      ("tags", { relation := .manyToMany, target := "Tag", joinTable := some "links" }),
      ("groups", groups)] : Keyed Association).filter (·.2.joinsTo "Group") = [("groups", groups)]
    simpa [Association.joinsTo] using toGroups
  names := names
  otherNames := otherNames
  oneInverse := oneInverse

/-- The groups call themselves the inverse end. -/
def members : Association where
  relation := .manyToMany
  target := "User"
  mappedBy := some "groups"

/-- The users say what a membership consists of. -/
def membership : Association where
  relation := .manyToMany
  target := "Group"
  inversedBy := some "members"
  pivotFields := [("role", .scalar { typeName := "string" })]

theorem clubSchema_join :
    (clubSchema members membership).Facing (groupEnd members) (userEnd membership)
      ∧ ¬(members.owning = some false ∧ membership.owning = some false)
      ∧ (∀ joinEnd ∈ [groupEnd members, userEnd membership],
        (clubSchema members membership).Unreplaced joinEnd)
      ∧ ∃ join ∈ (clubSchema members membership).joinTables (groupEnd members).entity
          ++ (clubSchema members membership).joinTables (userEnd membership).entity,
        join.Links "Group" "User" := by
  have facing : (clubSchema members membership).Facing (groupEnd members) (userEnd membership) :=
    clubSchema_facing (by decide) (by decide) ⟨by decide, by decide⟩ ⟨by decide, by decide⟩
      (.inr rfl)
  have claimed : ¬(members.owning = some false ∧ membership.owning = some false) := by decide
  have unreplaced : ∀ joinEnd ∈ [groupEnd members, userEnd membership],
      (clubSchema members membership).Unreplaced joinEnd :=
    List.forall_mem_cons.mpr ⟨⟨by decide +kernel, by decide +kernel⟩,
      List.forall_mem_singleton.mpr ⟨by decide +kernel, by decide +kernel⟩⟩
  have verdicts := facing.owns_and_exists_links_iff claimed fun joinEnd member _ =>
    unreplaced joinEnd member
  have owns : ((clubSchema members membership).endSide (userEnd membership)).owns = true := by
    decide +kernel
  have free : ¬(clubSchema members membership).Forestalled (userEnd membership) := by
    decide +kernel
  exact ⟨facing, claimed, unreplaced, verdicts.2.mpr ⟨userEnd membership, by simp, owns, free⟩⟩

/-! Had the memberships been kept in the table of the tags, the tags would have come first. -/

example : (clubSchema members { membership with joinTable := some "links" }).Forestalled
    (userEnd { membership with joinTable := some "links" }) := by decide +kernel

/-- The groups say nothing of an inverse end. -/
def plainMembers : Association :=
  { members with mappedBy := none }

/-- It is the users, of all, who call their end the inverse one. -/
def inverseMembership : Association :=
  { membership with inversedBy := none, mappedBy := some "members" }

/-- Either end leaves the join table to the other. -/
theorem clubSchema_no_join :
    (clubSchema plainMembers inverseMembership).Facing (groupEnd plainMembers)
        (userEnd inverseMembership)
      ∧ ¬(plainMembers.owning = some false ∧ inverseMembership.owning = some false)
      ∧ (∀ joinEnd ∈ [groupEnd plainMembers, userEnd inverseMembership],
        (clubSchema plainMembers inverseMembership).Unreplaced joinEnd)
      ∧ ¬∃ join ∈
          (clubSchema plainMembers inverseMembership).joinTables (groupEnd plainMembers).entity
            ++ (clubSchema plainMembers inverseMembership).joinTables
              (userEnd inverseMembership).entity,
        join.Links "Group" "User" := by
  refine ⟨?_, by decide, ?_, by decide +kernel⟩
  · exact clubSchema_facing (by decide) (by decide) ⟨by decide, by decide⟩
      ⟨by decide, by decide⟩ (.inl rfl)
  · exact List.forall_mem_cons.mpr ⟨⟨by decide +kernel, by decide +kernel⟩,
      List.forall_mem_singleton.mpr ⟨by decide +kernel, by decide +kernel⟩⟩

end Schema

end Migration
