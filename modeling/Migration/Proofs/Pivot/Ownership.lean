import Migration.Proofs.Pivot.Verdicts

namespace Migration

/-! The two ends of one many-to-many association: how each finds the other, and which of them owns
the join table. -/

/-! ## Ends that face each other -/

def Association.joinsTo (association : Association) (target : String) : Bool :=
  association.relation = .manyToMany && association.target = target

/-- What the association says of the other end, if anything, is the name of the property there. -/
structure Association.Names (association : Association) (other : String) : Prop where
  mappedBy : ∀ name ∈ association.mappedBy, name = other
  inversedBy : ∀ name ∈ association.inversedBy, name = other

theorem Association.Names.eq_of_given {association : Association} {other name : String}
    (names : association.Names other)
    (given : association.mappedBy.or association.inversedBy = some name) : name = other := by
  rcases Option.or_eq_some_iff.mp given with mapped | ⟨_, inversed⟩
  · exact names.mappedBy name mapped
  · exact names.inversedBy name inversed

/-- One of the two ends of an association. -/
structure JoinEnd where
  entity : Entity
  property : String
  association : Association

namespace JoinEnd

/-- No other many-to-many association of the entity leads to the target. -/
def IsOnly (near : JoinEnd) (target : String) : Prop :=
  near.entity.associations.filter (·.2.joinsTo target) = [(near.property, near.association)]

/-- No flag tells who owns the join table, and the end that lists its fields, which the other does
not, calls itself the inverse one. -/
structure Contradicts (near far : JoinEnd) : Prop where
  unflagged : near.association.owning = none
  otherUnflagged : far.association.owning = none
  inverse : near.association.isInverse = true
  fields : near.association.pivotFields.isEmpty = false
  otherFieldless : far.association.pivotFields.isEmpty = true

instance (near far : JoinEnd) : Decidable (near.Contradicts far) :=
  decidable_of_iff (_ ∧ _ ∧ _ ∧ _ ∧ _)
    ⟨fun ⟨unflagged, otherUnflagged, inverse, fields, otherFieldless⟩ =>
      ⟨unflagged, otherUnflagged, inverse, fields, otherFieldless⟩,
      fun contradicts => ⟨contradicts.unflagged, contradicts.otherUnflagged,
        contradicts.inverse, contradicts.fields, contradicts.otherFieldless⟩⟩

theorem IsOnly.joinsTo {near : JoinEnd} {target : String} (only : near.IsOnly target) :
    near.association.relation = .manyToMany ∧ near.association.target = target := by
  have kept : near.entity.associations.filter (·.2.joinsTo target) =
      [(near.property, near.association)] := only
  have member : (near.property, near.association) ∈
      near.entity.associations.filter (·.2.joinsTo target) := by
    rw [kept]
    exact List.mem_singleton_self _
  simpa [Association.joinsTo] using (List.mem_filter.mp member).2

end JoinEnd

namespace Schema

def endSide (schema : Schema) (near : JoinEnd) : Side :=
  schema.side near.entity near.property near.association

/-- The only two many-to-many associations between two entities, one of which at most calls itself
the inverse one; where they name a property at the other end, they name each other. -/
structure Facing (schema : Schema) (near far : JoinEnd) : Prop where
  apart : near.entity.name ≠ far.entity.name
  known : schema.entity? near.entity.name = some near.entity
  otherKnown : schema.entity? far.entity.name = some far.entity
  only : near.IsOnly far.entity.name
  otherOnly : far.IsOnly near.entity.name
  names : near.association.Names far.property
  otherNames : far.association.Names near.property
  oneInverse : near.association.isInverse = false ∨ far.association.isInverse = false

namespace Facing

variable {schema : Schema} {near far : JoinEnd} (facing : schema.Facing near far)

include facing

theorem symm : schema.Facing far near where
  apart := facing.apart.symm
  known := facing.otherKnown
  otherKnown := facing.known
  only := facing.otherOnly
  otherOnly := facing.only
  names := facing.otherNames
  otherNames := facing.names
  oneInverse := facing.oneInverse.symm

/-- Each end finds the other, whether it names it, is named by it, or neither. -/
theorem counterpart :
    schema.counterpart? near.entity near.property near.association =
      some (far.property, far.association) := by
  have ⟨relation, target⟩ := facing.only.joinsTo
  have candidates : far.entity.associations.filter (fun entry =>
      near.association.pointsBack near.entity near.property far.entity entry.1 entry.2) =
        [(far.property, far.association)] := by
    rw [← facing.otherOnly]
    apply List.filter_congr
    intro entry _
    simp [Association.pointsBack, Association.joinsTo, relation, facing.apart.symm]
  rw [counterpart?, target, facing.otherKnown]
  change (Option.or _ _ : Option (String × Association)) = _
  rw [candidates]
  cases given : near.association.mappedBy.or near.association.inversedBy with
  | some name => simp [facing.names.eq_of_given given]
  | none =>
      -- The other end names this one, or it names nothing.
      cases mapped : far.association.mappedBy with
      | some name => simp [mapped, facing.otherNames.mappedBy name mapped]
      | none =>
          cases inversed : far.association.inversedBy with
          | some name => simp [mapped, inversed, facing.otherNames.inversedBy name inversed]
          | none => simp [mapped, inversed]

/-! ## Verdicts -/

theorem opposes : (schema.endSide near).Opposes (schema.endSide far) where
  counterpart := facing.counterpart
  otherCounterpart := facing.symm.counterpart
  target := facing.only.joinsTo.2
  otherTarget := facing.otherOnly.joinsTo.2
  apart same := absurd same facing.apart

section Unflagged

variable (unflagged : near.association.owning = none)
  (otherUnflagged : far.association.owning = none)

include unflagged otherUnflagged

/-- Between two ends of which neither is inverse, fields or else the entities' names decide. -/
theorem owns_or_owns_of_direct (direct : near.association.isInverse = false)
    (otherDirect : far.association.isInverse = false) :
    (schema.endSide near).owns = true ∨ (schema.endSide far).owns = true := by
  have opposes := facing.opposes
  cases fields : near.association.pivotFields.isEmpty with
  | false => exact .inl (opposes.owns_of_own_fields unflagged otherUnflagged direct fields)
  | true =>
      cases otherFields : far.association.pivotFields.isEmpty with
      | false =>
          exact .inr
            (opposes.symm.owns_of_own_fields otherUnflagged unflagged otherDirect otherFields)
      | true =>
          rcases opposes.alphabetical_eq_not with ⟨verdict, named, otherNamed⟩
          have owns := opposes.owns_of_names unflagged otherUnflagged direct fields otherFields
            otherDirect named
          have otherOwns := opposes.symm.owns_of_names otherUnflagged unflagged otherDirect
            otherFields fields direct otherNamed
          cases verdict with
          | true => exact .inl owns
          | false => exact .inr otherOwns

/-- Across from an inverse end the table is owned, unless the inverse end lists its fields. -/
theorem owns_iff_of_inverse (inverse : far.association.isInverse = true)
    (direct : near.association.isInverse = false) :
    (schema.endSide near).owns = true ↔ ¬far.Contradicts near := by
  have opposes := facing.opposes
  cases fields : near.association.pivotFields.isEmpty with
  | false =>
      have consistent : ¬far.Contradicts near := fun contradicts => by
        simpa [fields] using contradicts.otherFieldless
      simp [opposes.owns_of_own_fields unflagged otherUnflagged direct fields, consistent]
  | true =>
      cases otherFields : far.association.pivotFields.isEmpty with
      | false =>
          have contradicts : far.Contradicts near :=
            ⟨otherUnflagged, unflagged, inverse, otherFields, fields⟩
          simp [opposes.owns_of_other_fields unflagged otherUnflagged direct fields otherFields,
            contradicts]
      | true =>
          rcases Option.isSome_iff_exists.mp inverse with ⟨name, mapped⟩
          have namesNear : far.association.mappedBy = some near.property := by
            rw [mapped, facing.otherNames.mappedBy name mapped]
          have consistent : ¬far.Contradicts near := fun contradicts => by
            simpa [otherFields] using contradicts.fields
          simp [opposes.owns_of_mapped unflagged otherUnflagged direct fields otherFields namesNear,
            consistent]

theorem owns_or_owns_iff_of_unflagged :
    (schema.endSide near).owns = true ∨ (schema.endSide far).owns = true ↔
      ¬near.Contradicts far ∧ ¬far.Contradicts near := by
  have silent := facing.opposes.explicitFlag_eq_none unflagged otherUnflagged
  have otherSilent := facing.symm.opposes.explicitFlag_eq_none otherUnflagged unflagged
  cases inverse : near.association.isInverse with
  | true =>
      have otherDirect : far.association.isInverse = false := by
        simpa [inverse] using facing.oneInverse
      have otherConsistent : ¬far.Contradicts near := fun contradicts => by
        simpa [otherDirect] using contradicts.inverse
      rw [Side.owns_of_inverse silent inverse,
        facing.symm.owns_iff_of_inverse otherUnflagged unflagged inverse otherDirect]
      simp [otherConsistent]
  | false =>
      have consistent : ¬near.Contradicts far := fun contradicts => by
        simpa [inverse] using contradicts.inverse
      cases otherInverse : far.association.isInverse with
      | true =>
          rw [Side.owns_of_inverse otherSilent otherInverse,
            facing.owns_iff_of_inverse unflagged otherUnflagged otherInverse inverse]
          simp [consistent]
      | false =>
          have otherConsistent : ¬far.Contradicts near := fun contradicts => by
            simpa [otherInverse] using contradicts.inverse
          exact iff_of_true
            (facing.owns_or_owns_of_direct unflagged otherUnflagged inverse otherInverse)
            ⟨consistent, otherConsistent⟩

end Unflagged

/-- A flag gives the table to one of the ends, if it does not take it from both. -/
theorem owns_or_owns_of_flag {verdict : Bool} (flag : near.association.owning = some verdict)
    (claimed : ¬(near.association.owning = some false ∧ far.association.owning = some false)) :
    (schema.endSide near).owns = true ∨ (schema.endSide far).owns = true := by
  have opposes := facing.opposes
  cases verdict with
  | true => exact .inl (opposes.owns_of_own_flag flag)
  | false =>
      cases otherFlag : far.association.owning with
      | none => exact .inr (opposes.symm.owns_of_other_flag otherFlag flag)
      | some otherVerdict =>
          cases otherVerdict with
          | true => exact .inr (opposes.symm.owns_of_own_flag otherFlag)
          | false => exact absurd ⟨flag, otherFlag⟩ claimed

/-- At least one of the two ends owns the join table, as long as they do not contradict each other
and a flag does not take it from both. -/
theorem owns_or_owns_iff
    (claimed : ¬(near.association.owning = some false ∧ far.association.owning = some false)) :
    (schema.endSide near).owns = true ∨ (schema.endSide far).owns = true ↔
      ¬near.Contradicts far ∧ ¬far.Contradicts near := by
  cases flag : near.association.owning with
  | some verdict =>
      have consistent : ¬near.Contradicts far := fun contradicts => by
        simpa [flag] using contradicts.unflagged
      have otherConsistent : ¬far.Contradicts near := fun contradicts => by
        simpa [flag] using contradicts.otherUnflagged
      exact iff_of_true (facing.owns_or_owns_of_flag flag claimed) ⟨consistent, otherConsistent⟩
  | none =>
      cases otherFlag : far.association.owning with
      | some verdict =>
          have consistent : ¬near.Contradicts far := fun contradicts => by
            simpa [otherFlag] using contradicts.otherUnflagged
          have otherConsistent : ¬far.Contradicts near := fun contradicts => by
            simpa [otherFlag] using contradicts.unflagged
          have owned := facing.symm.owns_or_owns_of_flag otherFlag (fun both => claimed both.symm)
          exact iff_of_true owned.symm ⟨consistent, otherConsistent⟩
      | none => exact facing.owns_or_owns_iff_of_unflagged flag otherFlag

end Facing

end Schema

end Migration
