import Migration.Pivot.Ownership

namespace Migration

/-! Which of two sides owns the join table: what each rule says of one side, and what the rules say
of two sides that face each other. -/

namespace Side

/-! ## One side -/

/-- The first rule that decides is obeyed. -/
theorem owns_of_decides {side : Side} {verdict : Bool}
    {before after : List (String × (Side → Option Bool))} {name : String}
    {rule : Side → Option Bool} (order : rules = before ++ (name, rule) :: after)
    (undecided : ∀ earlier ∈ before, earlier.2 side = none) (decides : rule side = some verdict) :
    side.owns = verdict := by
  have silent : before.findSome? (fun earlier => earlier.2 side) = none :=
    List.findSome?_eq_none_iff.mpr undecided
  change (rules.findSome? fun rule => rule.2 side).getD true = verdict
  rw [order, List.findSome?_append, silent, Option.none_or, List.findSome?_cons_of_isSome]
  all_goals simp [decides]

section

variable {side : Side} {verdict : Bool}

theorem owns_of_flag (flagged : side.explicitFlag = some verdict) : side.owns = verdict := by
  have order : rules = [] ++ ("explicit_flag", explicitFlag) :: rules.drop 1 := rfl
  exact owns_of_decides order (by simp) flagged

variable (unflagged : side.explicitFlag = none)

include unflagged

theorem owns_of_inverse (inverse : side.association.isInverse = true) : side.owns = false := by
  have order : rules = rules.take 1 ++ ("inverse_side", inverseSide) :: rules.drop 2 := rfl
  exact owns_of_decides order (by simp [rules, unflagged]) (by simp [inverseSide, inverse])

variable (direct : side.association.isInverse = false)

include direct

theorem owns_of_fields (fields : side.pivotFields = some verdict) : side.owns = verdict := by
  have order : rules = rules.take 2 ++ ("pivot_fields", pivotFields) :: rules.drop 3 := rfl
  exact owns_of_decides order (by simp [rules, unflagged, inverseSide, direct]) fields

variable (fieldless : side.pivotFields = none) {other : String × Association}
  (found : side.counterpart = some other)

include fieldless found

theorem owns_of_mapped (mapped : other.2.mappedBy = some side.property) : side.owns = true := by
  have order : rules =
      rules.take 3 ++ ("counterpart_mapped_by", counterpartMappedBy) :: rules.drop 4 := rfl
  exact owns_of_decides order (by simp [rules, unflagged, inverseSide, direct, fieldless])
    (by simp [counterpartMappedBy, found, mapped])

/-- Where nothing else decides, the names do. -/
theorem owns_of_names (unmapped : other.2.mappedBy ≠ some side.property)
    (named : side.alphabetical = some verdict) : side.owns = verdict := by
  have order : rules = rules.take 5 ++ ("alphabetical", alphabetical) :: rules.drop 6 := rfl
  refine owns_of_decides order ?_ named
  simp [rules, unflagged, inverseSide, direct, fieldless, counterpartMappedBy, found, unmapped,
    oneSided]

end

section Counterpart

variable {side : Side} {other : String × Association} (found : side.counterpart = some other)

include found

theorem explicitFlag_of_counterpart :
    side.explicitFlag = side.association.owning.or (other.2.owning.map (! ·)) := by
  rw [explicitFlag, found]
  rfl

theorem pivotFields_of_counterpart :
    side.pivotFields =
      if side.association.pivotFields.isEmpty = false then some true
      else if other.2.pivotFields.isEmpty then none else some false := by
  rw [pivotFields, found]
  simp

end Counterpart

/-! ## Two sides -/

/-- Either side is the counterpart of the other. -/
structure Opposes (left right : Side) : Prop where
  counterpart : left.counterpart = some (right.property, right.association)
  otherCounterpart : right.counterpart = some (left.property, left.association)
  target : left.association.target = right.entity
  otherTarget : right.association.target = left.entity
  apart : left.entity = right.entity → left.property ≠ right.property

/-- The side says what the join table consists of, and nothing of whose it is. -/
def ClaimsByFields (side : Side) : Prop :=
  side.association.owning = none ∧ side.association.isInverse = false
    ∧ side.association.pivotFields.isEmpty = false

namespace Opposes

variable {left right : Side} (opposes : left.Opposes right)

include opposes

theorem symm : right.Opposes left where
  counterpart := opposes.otherCounterpart
  otherCounterpart := opposes.counterpart
  target := opposes.otherTarget
  otherTarget := opposes.target
  apart same := (opposes.apart same.symm).symm

theorem explicitFlag_eq : left.explicitFlag =
    left.association.owning.or (right.association.owning.map (! ·)) :=
  explicitFlag_of_counterpart opposes.counterpart

theorem owns_of_own_flag {verdict : Bool} (flag : left.association.owning = some verdict) :
    left.owns = verdict := by
  apply owns_of_flag
  rw [opposes.explicitFlag_eq, flag, Option.some_or]

theorem owns_of_other_flag (unflagged : left.association.owning = none) {verdict : Bool}
    (flag : right.association.owning = some verdict) : left.owns = !verdict := by
  apply owns_of_flag
  rw [opposes.explicitFlag_eq, unflagged, flag, Option.none_or, Option.map_some]

theorem pivotFields_eq_none (fieldless : left.association.pivotFields.isEmpty = true)
    (otherFieldless : right.association.pivotFields.isEmpty = true) :
    left.pivotFields = none := by
  rw [pivotFields_of_counterpart opposes.counterpart]
  simp [fieldless, otherFieldless]

section Unflagged

variable (unflagged : left.association.owning = none)
  (otherUnflagged : right.association.owning = none)

include unflagged otherUnflagged

theorem explicitFlag_eq_none : left.explicitFlag = none := by
  rw [opposes.explicitFlag_eq, unflagged, otherUnflagged, Option.none_or, Option.map_none]

variable (direct : left.association.isInverse = false)

include direct

theorem owns_of_own_fields (fields : left.association.pivotFields.isEmpty = false) :
    left.owns = true := by
  apply owns_of_fields (opposes.explicitFlag_eq_none unflagged otherUnflagged) direct
  rw [pivotFields_of_counterpart opposes.counterpart, if_pos fields]

theorem owns_of_other_fields (fieldless : left.association.pivotFields.isEmpty = true)
    (fields : right.association.pivotFields.isEmpty = false) : left.owns = false := by
  apply owns_of_fields (opposes.explicitFlag_eq_none unflagged otherUnflagged) direct
  rw [pivotFields_of_counterpart opposes.counterpart]
  simp [fieldless, fields]

variable (fieldless : left.association.pivotFields.isEmpty = true)
  (otherFieldless : right.association.pivotFields.isEmpty = true)

include fieldless otherFieldless

theorem owns_of_mapped (mapped : right.association.mappedBy = some left.property) :
    left.owns = true :=
  Side.owns_of_mapped (opposes.explicitFlag_eq_none unflagged otherUnflagged) direct
    (opposes.pivotFields_eq_none fieldless otherFieldless) opposes.counterpart mapped

theorem owns_of_names (otherDirect : right.association.isInverse = false) {verdict : Bool}
    (named : left.alphabetical = some verdict) : left.owns = verdict := by
  have unmapped : right.association.mappedBy = none := by
    simpa [Association.isInverse] using otherDirect
  exact Side.owns_of_names (opposes.explicitFlag_eq_none unflagged otherUnflagged) direct
    (opposes.pivotFields_eq_none fieldless otherFieldless) opposes.counterpart (by simp [unmapped])
    named

end Unflagged

/-- Of two sides one name is the lesser, that of its entity or, within one entity, of its
property. -/
theorem alphabetical_eq_not : ∃ verdict,
    left.alphabetical = some verdict ∧ right.alphabetical = some !verdict := by
  rw [alphabetical, alphabetical, opposes.counterpart, opposes.otherCounterpart, opposes.target,
    opposes.otherTarget]
  dsimp only
  by_cases same : left.entity = right.entity
  · have differ := opposes.apart same
    refine ⟨decide (left.property ≤ right.property), by simp [same], ?_⟩
    by_cases lesser : left.property ≤ right.property
    · have notGreater : ¬right.property ≤ left.property := fun greater =>
        differ (String.le_antisymm lesser greater)
      simp [same, lesser, notGreater]
    · have greater := (String.le_total left.property right.property).resolve_left lesser
      simp [same, lesser, greater]
  · have otherWay : ¬right.entity = left.entity := fun equal => same equal.symm
    refine ⟨decide (left.entity < right.entity), by simp [same], ?_⟩
    by_cases lesser : left.entity < right.entity
    · have notGreater : ¬right.entity < left.entity := String.lt_asymm lesser
      simp [otherWay, lesser, notGreater]
    · have greater : right.entity < left.entity := Decidable.byContradiction fun notGreater =>
        same (String.le_antisymm (String.not_lt.mp notGreater) (String.not_lt.mp lesser))
      simp [otherWay, lesser, greater]

theorem owns_and_owns_iff_of_unflagged (unflagged : left.association.owning = none)
    (otherUnflagged : right.association.owning = none) :
    left.owns = true ∧ right.owns = true ↔ left.ClaimsByFields ∧ right.ClaimsByFields := by
  have other := opposes.symm
  have silent := opposes.explicitFlag_eq_none unflagged otherUnflagged
  have otherSilent := other.explicitFlag_eq_none otherUnflagged unflagged
  cases inverse : left.association.isInverse with
  | true => simp [owns_of_inverse silent inverse, ClaimsByFields, inverse]
  | false =>
      cases otherInverse : right.association.isInverse with
      | true => simp [owns_of_inverse otherSilent otherInverse, ClaimsByFields, otherInverse]
      | false =>
          cases fields : left.association.pivotFields.isEmpty with
          | false =>
              have owns := opposes.owns_of_own_fields unflagged otherUnflagged inverse fields
              cases otherFields : right.association.pivotFields.isEmpty with
              | false =>
                  have otherOwns :=
                    other.owns_of_own_fields otherUnflagged unflagged otherInverse otherFields
                  simp [ClaimsByFields, *]
              | true =>
                  have otherDisowns := other.owns_of_other_fields otherUnflagged unflagged
                    otherInverse otherFields fields
                  simp [ClaimsByFields, otherDisowns, otherFields]
          | true =>
              cases otherFields : right.association.pivotFields.isEmpty with
              | false =>
                  have disowns := opposes.owns_of_other_fields unflagged otherUnflagged inverse
                    fields otherFields
                  simp [ClaimsByFields, disowns, fields]
              | true =>
                  rcases opposes.alphabetical_eq_not with ⟨verdict, named, otherNamed⟩
                  have owns := opposes.owns_of_names unflagged otherUnflagged inverse fields
                    otherFields otherInverse named
                  have otherOwns := other.owns_of_names otherUnflagged unflagged otherInverse
                    otherFields fields inverse otherNamed
                  simp [ClaimsByFields, owns, otherOwns, fields]

/-- Both sides own the table only if both are flagged so, or if both list fields and nothing else
tells them apart. -/
theorem owns_and_owns_iff :
    left.owns = true ∧ right.owns = true ↔
      (left.association.owning = some true ∧ right.association.owning = some true)
        ∨ (left.ClaimsByFields ∧ right.ClaimsByFields) := by
  have other := opposes.symm
  cases flag : left.association.owning with
  | some verdict =>
      rw [opposes.owns_of_own_flag flag]
      cases otherFlag : right.association.owning with
      | some otherVerdict =>
          rw [other.owns_of_own_flag otherFlag]
          simp [ClaimsByFields, flag]
      | none =>
          rw [other.owns_of_other_flag otherFlag flag]
          cases verdict <;> simp [ClaimsByFields, flag]
  | none =>
      cases otherFlag : right.association.owning with
      | some verdict =>
          rw [opposes.owns_of_other_flag flag otherFlag, other.owns_of_own_flag otherFlag]
          cases verdict <;> simp [ClaimsByFields, otherFlag]
      | none =>
          rw [opposes.owns_and_owns_iff_of_unflagged flag otherFlag]
          simp

end Opposes

end Side

end Migration
