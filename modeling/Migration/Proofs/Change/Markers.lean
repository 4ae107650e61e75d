import Migration.Proofs.Blueprint.Extension
import Migration.Proofs.Change.RoundTrip
import Migration.Proofs.Operation.Provenance

namespace Migration

/-! The marker of primary columns under a change that leaves the key alone. A blueprint as it is
built marks no column but the one that is the whole key. A change keeps to that, unless it leaves a
column behind that is marked, as the snapshot of its property says, and is not the whole key. -/

open Operation (replay laidDown)

/-! ## Operations on parts -/

namespace Operation

/-- The operation keeps the key, and lays down no marked column but one of these. -/
structure MarksOnly (operation : Operation) (columns : List Column) : Prop where
  keepsKey : operation.KeepsKey
  laid : ∀ state, ∀ column ∈ operation.laid state, column.isPrimary = true → column ∈ columns

section

variable {operation : Operation} {columns : List Column}

theorem MarksOnly.of_layless (keepsKey : operation.KeepsKey)
    (layless : ∀ state, operation.laid state = []) : operation.MarksOnly columns :=
  ⟨keepsKey, by simp [layless]⟩

theorem MarksOnly.of_missing (keepsKey : operation.KeepsKey) {added : List Column}
    (unmarked : ∀ column ∈ added, column.isPrimary = false)
    (laid : ∀ state, operation.laid state = state.missing added) : operation.MarksOnly columns := by
  refine ⟨keepsKey, fun state column member marked => ?_⟩
  rw [laid state] at member
  rw [unmarked column (Blueprint.mem_missing.mp member).1] at marked
  contradiction

theorem OnPart.keepsKey (onPart : operation.OnPart) : operation.KeepsKey := by
  cases operation <;> trivial

end

theorem marksOnly_creating (parts : Parts) :
    ∀ operation ∈ parts.creating, operation.MarksOnly parts.columns := by
  intro operation member
  refine ⟨(onPart_creating parts operation member).keepsKey, fun state column laid _ => ?_⟩
  simp only [Parts.creating, List.mem_append, List.mem_map] at member
  rcases member with (⟨added, isPart, rfl⟩ | ⟨_, _, rfl⟩) | ⟨_, _, rfl⟩
  · rwa [List.mem_singleton.mp (Blueprint.mem_missing.mp laid).1]
  · contradiction
  · contradiction

theorem marksOnly_dropping (parts : Parts) (columns : List Column) :
    ∀ operation ∈ parts.dropping, operation.MarksOnly columns := by
  intro operation member
  refine ⟨(onPart_dropping parts operation member).keepsKey, fun state column laid _ => ?_⟩
  simp only [Parts.dropping, List.mem_append, List.mem_map] at member
  rcases member with (⟨_, _, rfl⟩ | ⟨_, _, rfl⟩) | ⟨_, _, rfl⟩ <;> contradiction

theorem marksOnly_reshaping (old new : Parts) :
    ∀ operation ∈ old.reshaping new, operation.MarksOnly new.columns := by
  intro operation member
  refine ⟨(onPart_reshaping old new operation member).keepsKey, fun state column laid _ => ?_⟩
  simp only [Parts.reshaping, List.mem_append, List.mem_map] at member
  rcases member with ((((⟨_, _, rfl⟩ | ⟨_, _, rfl⟩) | ⟨_, _, rfl⟩) | ⟨altered, isPart, rfl⟩) |
    ⟨_, _, rfl⟩) | ⟨_, _, rfl⟩
  · contradiction
  · contradiction
  · contradiction
  · rwa [List.mem_singleton.mp laid]
  · contradiction
  · contradiction

theorem marksOnly_renaming (pairs : List (String × String)) (columns : List Column) :
    ∀ operation ∈ pairs.map fun pair => Operation.renameColumn pair.1 pair.2,
      operation.MarksOnly columns := by
  intro operation member
  rcases List.mem_map.mp member with ⟨pair, _, rfl⟩
  exact .of_layless trivial fun _ => rfl

end Operation

theorem EntityChange.property_mem_steps {change : EntityChange} {property : PropertyChange} :
    .property property ∈ change.steps ↔ property ∈ change.columns := by
  simp [steps]

theorem EntityChange.ne_key_of_mem_steps {change : EntityChange}
    (unkeyed : ∀ transition ∈ change.options.key, transition.isChange = false) {step : ChangeStep}
    (member : step ∈ change.steps) (transition : Transition KeyStrategy) :
    step ≠ .key transition := by
  rintro rfl
  have given : transition ∈ change.options.key ∧ transition.isChange = true := by
    simpa [steps, Option.filter_eq_some_iff] using member
  rw [unkeyed transition given.1] at given
  exact absurd given.2 Bool.false_ne_true

namespace Context

variable (context : Context) (change : EntityChange)

/-- The definition from which a change of a property lays columns down, if it does. -/
def introduced? : PropertyChange → Option Property
  | .added _ current => some current
  | .removed _ _ => none
  | .modified name previous current =>
      previous.bind fun _ => context.definitionAfter change name current
  | .renamed _ _ (some previous) (some current) =>
      if previous.same current then none else some current
  | .renamed _ _ _ _ => none

def introducedColumns : ChangeStep → List Column
  | .property property =>
      (context.introduced? change property).elim [] fun definition =>
        (context.partsOf change property.name definition).columns
  | _ => []

variable {context change} {step : ChangeStep}

theorem marksOnly_property (property : PropertyChange) :
    ∀ operation ∈ (context.stepGroup change (.property property)).forward,
      operation.MarksOnly (context.introducedColumns change (.property property)) := by
  intro operation member
  cases property with
  | added name current => exact Operation.marksOnly_creating _ _ member
  | removed name previous => exact Operation.marksOnly_dropping _ _ _ member
  | modified name previous current =>
      rcases context.stepGroup_modified_cases change name previous current with
        ⟨old, new, rfl, after⟩ | ⟨_, idle⟩
      · rw [stepGroup_modified after] at member
        have introduced : context.introduced? change (.modified name (some old) current) =
            some new := after
        rw [introducedColumns, introduced]
        exact Operation.marksOnly_reshaping _ _ _ member
      · rw [idle] at member
        contradiction
  | renamed source target previous current =>
      rcases renamed_cases previous current with ⟨old, new, rfl, rfl, differ⟩ | same
      · rw [stepGroup_reshaping_renamed differ] at member
        have introduced : context.introduced? change
            (.renamed source target (some old) (some new)) = some new := by
          rw [introduced?, differ]
          rfl
        rw [introducedColumns, introduced]
        rcases List.mem_append.mp member with renames | reshapes
        · exact Operation.marksOnly_renaming _ _ _ renames
        · exact Operation.marksOnly_reshaping _ _ _ reshapes
      · rw [stepGroup_renamed same] at member
        exact Operation.marksOnly_renaming _ _ _ member

/-- What is marked comes from the property that the step introduces: indexes and options bring no
marked columns. -/
theorem marksOnly_step (unkeyed : ∀ transition, step ≠ .key transition) :
    ∀ operation ∈ (context.stepGroup change step).forward,
      operation.MarksOnly (context.introducedColumns change step) := by
  intro operation member
  cases step with
  | key transition => exact absurd rfl (unkeyed transition)
  | property property => exact marksOnly_property property operation member
  | index index =>
      cases index <;> rcases List.mem_singleton.mp member with rfl <;>
        exact .of_layless trivial fun _ => rfl
  | timestamps enabled =>
      cases enabled <;> rcases List.mem_singleton.mp member with rfl
      case true => exact .of_missing trivial (by decide) fun _ => rfl
      case false => exact .of_layless trivial fun _ => rfl
  | softDelete enabled =>
      cases enabled <;> rcases List.mem_singleton.mp member with rfl
      case true => exact .of_missing trivial (by decide) fun _ => rfl
      case false => exact .of_layless trivial fun _ => rfl

/-! ## The whole change -/

section

variable (unkeyed : ∀ transition ∈ change.options.key, transition.isChange = false)

include unkeyed

theorem marksOnly_forward :
    ∀ operation ∈ context.forward change, ∃ step ∈ change.steps,
      operation.MarksOnly (context.introducedColumns change step) := by
  intro operation member
  rw [forward_eq] at member
  rcases List.mem_flatMap.mp member with ⟨step, isStep, inStep⟩
  exact ⟨step, isStep, marksOnly_step (change.ne_key_of_mem_steps unkeyed isStep) _ inStep⟩

/-- A marked column that the change leaves behind comes from a definition that is flagged as
primary. -/
theorem exists_introduced_of_mem_laidDown {state : Blueprint} {column : Column}
    (left : column ∈ laidDown state (context.forward change)) (marked : column.isPrimary = true) :
    ∃ property ∈ change.columns, ∃ definition ∈ context.introduced? change property,
      definition.isPrimary = true := by
  rcases Operation.exists_laid_of_mem_laidDown left marked with
    ⟨operation, member, before, new, laid, newMarked⟩
  rcases marksOnly_forward unkeyed operation member with ⟨step, isStep, marksOnly⟩
  have isNew : new ∈ context.introducedColumns change step :=
    marksOnly.laid before new laid newMarked
  cases step with
  | property property =>
      rw [introducedColumns] at isNew
      cases introduced : context.introduced? change property with
      | none =>
          rw [introduced] at isNew
          contradiction
      | some definition =>
          rw [introduced] at isNew
          exact ⟨property, EntityChange.property_mem_steps.mp isStep, definition, introduced,
            context.flagged_of_isPrimary isNew newMarked⟩
  | _ => contradiction

/-- A change without a transition of the key keeps the markers right if and only if every marked
column that it leaves behind is the whole key in the end. None is left behind if no definition that
it introduces is flagged as primary. The names that its renamings take are free, as they are
whenever the change matches the table. -/
theorem marksKey_replay_forward_iff (entity : Entity)
    (admissible : Operation.AdmissibleRun (context.build entity) (context.forward change)) :
    let final := replay (context.build entity) (context.forward change)
    (final.MarksKey ↔
        ∀ column ∈ laidDown (context.build entity) (context.forward change),
          column.isPrimary = true → final.primaryKey = [column.name])
      ∧ ((∀ property ∈ change.columns, ∀ definition ∈ context.introduced? change property,
          definition.isPrimary = false) → final.MarksKey) := by
  have keeps : ∀ operation ∈ context.forward change, operation.KeepsKey := by
    intro operation member
    rcases marksOnly_forward unkeyed operation member with ⟨_, _, marksOnly⟩
    exact marksOnly.keepsKey
  have exact := Operation.marksKey_replay_iff (context.distinct_build entity)
    (context.marksKey_build entity) admissible keeps
  refine ⟨exact, fun plain => exact.mpr fun column left marked => ?_⟩
  rcases exists_introduced_of_mem_laidDown unkeyed left marked with
    ⟨property, member, definition, introduced, flagged⟩
  rw [plain property member definition introduced] at flagged
  contradiction

end

/-! Countries are known by a code, and seats by their row and a number. -/

def country : Entity where
  name := "Country"
  properties := [("code", .scalar { typeName := "string", primary := true })]
  options := { key := .declared }

def seat : Entity where
  name := "Seat"
  properties := [
    ("row", .scalar { typeName := "string", primary := true }),
    ("number", .scalar { typeName := "int", primary := true })]
  options := { key := .declared }

def atlasContext : Context :=
  .ofSettings { entities := [("Country", country), ("Seat", seat)] } {}

/-- The code is stored otherwise under a new name, and a title is added. -/
def codeChange : EntityChange where
  entity := "Country"
  columns := [
    .renamed "code" "iso" (some (.scalar { typeName := "string", primary := true }))
      (some (.scalar { typeName := "uuid", primary := true })),
    .added "title" (.scalar { typeName := "string" })]

theorem codeChange_marksKey :
    (∀ transition ∈ codeChange.options.key, transition.isChange = false)
      ∧ Operation.AdmissibleRun (atlasContext.build country) (atlasContext.forward codeChange)
      ∧ (replay (atlasContext.build country) (atlasContext.forward codeChange)).MarksKey := by
  have fits : atlasContext.FitsAll codeChange (atlasContext.build country) codeChange.steps := by
    decide +kernel
  have admissible : Operation.AdmissibleRun (atlasContext.build country)
      (atlasContext.forward codeChange) := by
    rw [forward_eq]
    exact admissible_steps fits (by decide +kernel)
  have unkeyed : ∀ transition ∈ codeChange.options.key, transition.isChange = false := by decide
  refine ⟨unkeyed, admissible, (marksKey_replay_forward_iff unkeyed country admissible).1.mpr ?_⟩
  decide +kernel

/-- The rows get shorter names. -/
def rowChange : EntityChange where
  entity := "Seat"
  columns := [
    .modified "row" (seat.property? "row")
      (some (.scalar { typeName := "string", hints := { length := some 64 }, primary := true }))]

/-- A seat's row is marked as if it were the whole key, although the number is part of it too. -/
theorem rowChange_not_marksKey :
    (∀ transition ∈ rowChange.options.key, transition.isChange = false)
      ∧ (atlasContext.build seat).MarksKey
      ∧ (replay (atlasContext.build seat) (atlasContext.forward rowChange)).primaryKey =
        ["row", "number"]
      ∧ ¬(replay (atlasContext.build seat) (atlasContext.forward rowChange)).MarksKey := by
  decide +kernel

end Context

end Migration
