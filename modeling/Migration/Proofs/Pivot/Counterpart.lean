import Mathlib.Logic.Basic
import Migration.Proofs.Pivot.Ownership

namespace Migration

/-! How two associations that name one another are found for one another, among however many others
between the same entities. -/

/-- The association says that the property describes its relation at the other end. -/
def Association.Mentions (association : Association) (property : String) : Prop :=
  association.mappedBy = some property ∨ association.inversedBy = some property

instance (association : Association) (property : String) :
    Decidable (association.Mentions property) :=
  inferInstanceAs (Decidable (_ ∨ _))

namespace Entity

variable {entity : Entity} {name : String} {association : Association}

/-- Of the properties of one name the first is the one that is declared. -/
theorem exists_associations_eq
    (declared : entity.property? name = some (.association association)) : ∃ before after,
      entity.associations = before ++ (name, association) :: after
        ∧ ∀ entry ∈ before, entry.1 ≠ name := by
  rcases List.lookup_eq_some_iff.mp declared with ⟨before, after, whole, others⟩
  let associated (entry : String × Property) : Option (String × Association) :=
    entry.2.association?.map fun association => (entry.1, association)
  refine ⟨before.filterMap associated, after.filterMap associated, ?_, ?_⟩
  · have split : entity.associations = (before ++ (name, .association association) :: after).filterMap
        associated := congrArg (List.filterMap associated) whole
    rw [split, List.filterMap_append]
    rfl
  · intro entry member
    rcases List.mem_filterMap.mp member with ⟨⟨other, property⟩, isBefore, made⟩
    rcases Option.map_eq_some_iff.mp made with ⟨_, _, rfl⟩
    have differs : name ≠ other := by simpa using others _ isBefore
    exact differs.symm

theorem mem_associations_of_property?
    (declared : entity.property? name = some (.association association)) :
    (name, association) ∈ entity.associations := by
  rcases exists_associations_eq declared with ⟨before, after, whole, _⟩
  simp [whole]

/-- A declared association is found by its name if it is wanted at all. -/
theorem find?_filter_associations
    (declared : entity.property? name = some (.association association))
    {wanted : String × Association → Bool} (isWanted : wanted (name, association) = true) :
    (entity.associations.filter wanted).find? (·.1 = name) = some (name, association) := by
  rcases exists_associations_eq declared with ⟨before, after, whole, others⟩
  rw [whole, List.find?_filter, List.find?_eq_some_iff_append]
  refine ⟨by simp [isWanted], before, after, rfl, fun entry isBefore => ?_⟩
  simp [others entry isBefore]

end Entity

theorem find?_eq_some_of_unique {α : Type} {values : List α} {test : α → Bool} {value : α}
    (member : value ∈ values) (passes : test value = true)
    (unique : ∀ other ∈ values, test other = true → other = value) :
    values.find? test = some value := by
  cases found : values.find? test with
  | none => exact absurd passes (List.find?_eq_none.mp found value member)
  | some other =>
      rw [unique other (List.mem_of_find?_eq_some found) (List.find?_some found)]

namespace Schema

/-- Two properties, perhaps of one entity, that describe one relation from its two ends: at least
one of them mentions the other, neither mentions any other property, and no other association of
their kind between the two entities mentions one of them. -/
structure Linked (schema : Schema) (near far : JoinEnd) : Prop where
  known : schema.entity? near.entity.name = some near.entity
  otherKnown : schema.entity? far.entity.name = some far.entity
  declared : near.entity.property? near.property = some (.association near.association)
  otherDeclared : far.entity.property? far.property = some (.association far.association)
  apart : near.entity.name = far.entity.name → near.property ≠ far.property
  relation : near.association.relation = far.association.relation
  target : near.association.target = far.entity.name
  otherTarget : far.association.target = near.entity.name
  mentions : near.association.Mentions far.property ∨ far.association.Mentions near.property
  names : near.association.Names far.property
  otherNames : far.association.Names near.property
  unmentioned : ∀ entry ∈ far.entity.associations,
    entry.2.relation = near.association.relation → entry.2.target = near.entity.name →
      entry.2.Mentions near.property → entry = (far.property, far.association)
  otherUnmentioned : ∀ entry ∈ near.entity.associations,
    entry.2.relation = far.association.relation → entry.2.target = far.entity.name →
      entry.2.Mentions far.property → entry = (near.property, near.association)

namespace Linked

variable {schema : Schema} {near far : JoinEnd} (linked : schema.Linked near far)

include linked

theorem symm : schema.Linked far near where
  known := linked.otherKnown
  otherKnown := linked.known
  declared := linked.otherDeclared
  otherDeclared := linked.declared
  apart same := (linked.apart same.symm).symm
  relation := linked.relation.symm
  target := linked.otherTarget
  otherTarget := linked.target
  mentions := linked.mentions.symm
  names := linked.otherNames
  otherNames := linked.names
  unmentioned := linked.otherUnmentioned
  otherUnmentioned := linked.unmentioned

theorem pointsBack :
    near.association.pointsBack near.entity near.property far.entity far.property
      far.association = true := by
  have differ : far.entity.name = near.entity.name → far.property ≠ near.property :=
    fun same => (linked.apart same.symm).symm
  simpa [Association.pointsBack, linked.relation, linked.otherTarget, or_iff_not_imp_left] using
    differ

/-- The end that is mentioned is found by its name. -/
theorem find?_named :
    (far.entity.associations.filter fun entry =>
        near.association.pointsBack near.entity near.property far.entity entry.1 entry.2).find?
      (·.1 = far.property) = some (far.property, far.association) :=
  Entity.find?_filter_associations linked.otherDeclared linked.pointsBack

/-- The end that mentions this one is the only one that does. -/
theorem find?_naming (mentioned : far.association.Mentions near.property) :
    (far.entity.associations.filter fun entry =>
        near.association.pointsBack near.entity near.property far.entity entry.1 entry.2).find?
      (fun entry => entry.2.mappedBy = some near.property
        || entry.2.inversedBy = some near.property) = some (far.property, far.association) := by
  apply find?_eq_some_of_unique
  · exact List.mem_filter.mpr
      ⟨Entity.mem_associations_of_property? linked.otherDeclared, linked.pointsBack⟩
  · simpa [Association.Mentions] using mentioned
  · intro entry candidate mentions
    rcases List.mem_filter.mp candidate with ⟨member, pointsBack⟩
    simp only [Association.pointsBack, Bool.and_eq_true, decide_eq_true_eq] at pointsBack
    exact linked.unmentioned entry member pointsBack.1.1 pointsBack.1.2
      (by simpa [Association.Mentions] using mentions)

theorem counterpart :
    schema.counterpart? near.entity near.property near.association =
      some (far.property, far.association) := by
  rw [counterpart?, linked.target, linked.otherKnown]
  change (Option.or _ _ : Option (String × Association)) = _
  cases given : near.association.mappedBy.or near.association.inversedBy with
  | some name =>
      simp only [Option.bind_some]
      rw [linked.names.eq_of_given given, linked.find?_named, Option.some_or, Option.some_or]
  | none =>
      -- This end mentions nothing, so the other end mentions it.
      have unmentioned : ¬near.association.Mentions far.property := by
        rcases Option.or_eq_none_iff.mp given with ⟨unmapped, uninversed⟩
        simp [Association.Mentions, unmapped, uninversed]
      have found := linked.find?_naming (linked.mentions.resolve_left unmentioned)
      simp only [Option.bind_none, Option.none_or]
      rw [found, Option.some_or]

/-- Linked ends find each other, whatever else there is between the two entities. -/
theorem counterpart_each_other :
    schema.counterpart? near.entity near.property near.association =
        some (far.property, far.association)
      ∧ schema.counterpart? far.entity far.property far.association =
        some (near.property, near.association) :=
  ⟨linked.counterpart, linked.symm.counterpart⟩

end Linked

end Schema

/-! People are members of teams, lead teams and watch teams. Only the people's end says which of the
relations of a team the memberships are, and there the watchers come first. -/

def memberships : Association where
  relation := .manyToMany
  target := "Team"
  inversedBy := some "members"

def personEnd : JoinEnd where
  entity :=
    { name := "Person"
      properties := [
        ("watched", .association { relation := .manyToMany, target := "Team" }),
        ("led", .association
          { relation := .manyToMany, target := "Team", mappedBy := some "leaders" }),
        ("teams", .association memberships)] }
  property := "teams"
  association := memberships

def teamEnd : JoinEnd where
  entity :=
    { name := "Team"
      properties := [
        ("watchers", .association { relation := .manyToMany, target := "Person" }),
        ("leaders", .association { relation := .manyToMany, target := "Person" }),
        ("members", .association { relation := .manyToMany, target := "Person" })] }
  property := "members"
  association := { relation := .manyToMany, target := "Person" }

def teamSchema : Schema where
  entities := [("Person", personEnd.entity), ("Team", teamEnd.entity)]

theorem teamSchema_counterpart_each_other :
    teamSchema.Linked personEnd teamEnd
      ∧ teamSchema.counterpart? personEnd.entity "teams" memberships =
        some ("members", teamEnd.association)
      ∧ teamSchema.counterpart? teamEnd.entity "members" teamEnd.association =
        some ("teams", memberships) := by
  have linked : teamSchema.Linked personEnd teamEnd := {
    known := rfl
    otherKnown := rfl
    declared := rfl
    otherDeclared := rfl
    apart := by decide
    relation := rfl
    target := rfl
    otherTarget := rfl
    mentions := by decide
    names := ⟨by decide, by decide⟩
    otherNames := ⟨by decide, by decide⟩
    unmentioned := by
      have silent : ∀ entry ∈ teamEnd.entity.associations, ¬entry.2.Mentions "teams" := by decide
      exact fun entry member _ _ mentions => absurd mentions (silent entry member)
    otherUnmentioned := by
      have single : personEnd.entity.associations.filter (·.2.Mentions "members") =
        [("teams", memberships)] := rfl
      intro entry member _ _ mentions
      have kept : entry ∈ personEnd.entity.associations.filter (·.2.Mentions "members") :=
        List.mem_filter.mpr ⟨member, decide_eq_true mentions⟩
      rw [single] at kept
      exact List.mem_singleton.mp kept }
  exact ⟨linked, linked.counterpart_each_other⟩

end Migration
