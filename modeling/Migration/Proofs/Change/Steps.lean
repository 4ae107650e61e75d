import Migration.Operation.Delta
import Migration.Proofs.Operation.Renaming

namespace Migration

/-! A change as a list of single steps, one for each group of operations, and what it takes for a
blueprint to match them. -/

inductive ChangeStep where
  | key (transition : Transition KeyStrategy)
  | property (change : PropertyChange)
  | index (change : IndexChange)
  | timestamps (enabled : Bool)
  | softDelete (enabled : Bool)

namespace EntityChange

/-- Transitions between two equal values are no steps. -/
def steps (change : EntityChange) : List ChangeStep :=
  ((change.options.key.filter (·.isChange)).map .key).toList
    ++ change.columns.map .property
    ++ change.indexes.map .index
    ++ ((change.options.timestamps.filter (·.isChange)).map (.timestamps ·.target)).toList
    ++ ((change.options.softDelete.filter (·.isChange)).map (.softDelete ·.target)).toList

end EntityChange

namespace Context

variable (context : Context) (change : EntityChange)

def definitionOf : Option Entity :=
  context.schema.entity? change.entity

/-- The parts of a property of the changed entity. -/
def partsOf (name : String) (property : Property) : Parts :=
  context.parts change.entity (context.tableOfChange change) name property

def indexOf (index : DeclaredIndex) : Index :=
  physicalIndex (context.definitionOf change) (context.tableOfChange change) index

/-- The definition that a modified property ends up with. -/
def definitionAfter (name : String) (current : Option Property) : Option Property :=
  current.or ((context.definitionOf change).bind (·.property? name))

/-- The columns that a renaming with a former definition renames. -/
def pairsOf (source target : String) (previous current : Option Property) :
    List (String × String) :=
  context.renamedColumns change.entity (context.tableOfChange change) source target
    ((previous.or current).or ((context.definitionOf change).bind fun entity =>
      (entity.property? target).or (entity.property? source)))

/-- What a renamed property is taken to consist of once its columns have their new names. -/
def partsAfterRenaming (source target : String) (previous current : Property) : Parts :=
  context.renamedParts change.entity (context.tableOfChange change) source target
    (context.pairsOf change source target (some previous) (some current)) previous

theorem partsAfterRenaming_columns (source target : String) (previous current : Property) :
    (context.partsAfterRenaming change source target previous current).columns =
      (context.partsOf change target previous).columns := by
  rw [partsAfterRenaming, renamedParts, partsOf]

def stepGroup : ChangeStep → Group
  | .key transition => context.keyGroup (context.definitionOf change) transition
  | .property property =>
      context.propertyGroup change.entity (context.tableOfChange change)
        (context.definitionOf change) property
  | .index index => indexGroup (context.definitionOf change) (context.tableOfChange change) index
  | .timestamps enabled => .toggle enabled .addTimestamps .dropTimestamps
  | .softDelete enabled => .toggle enabled .addSoftDeletes .dropSoftDeletes

theorem groups_eq : context.groups change = change.steps.map (context.stepGroup change) := by
  have optional {α : Type} [DecidableEq α] (transition : Option (Transition α))
      (step : Transition α → ChangeStep) :
      optionGroups transition (fun given => context.stepGroup change (step given)) =
        ((transition.filter (·.isChange)).map step).toList.map (context.stepGroup change) := by
    rw [optionGroups]
    cases transition.filter (·.isChange) <;> rfl
  simp only [groups, EntityChange.steps, List.map_append, List.map_map, ← optional]
  rfl

/-! ## The way forward and the way back -/

def forwardOf (steps : List ChangeStep) : List Operation :=
  steps.flatMap fun step => (context.stepGroup change step).forward

/-- The last step is taken back first. -/
def backwardOf (steps : List ChangeStep) : List Operation :=
  steps.reverse.flatMap fun step => (context.stepGroup change step).backward

/-- The operations of the change; none if there is no delta. -/
def forward : List Operation :=
  ((context.delta? change).map (·.forward)).getD []

def backward : List Operation :=
  ((context.delta? change).map (·.backward)).getD []

theorem forward_of_delta? {delta : Delta} (made : context.delta? change = some delta) :
    context.forward change = delta.forward := by
  rw [forward, made]
  rfl

theorem backward_of_delta? {delta : Delta} (made : context.delta? change = some delta) :
    context.backward change = delta.backward := by
  rw [backward, made]
  rfl

theorem flatMap_filter_nonempty (groups : List Group) (operations : Group → List Operation)
    (empty : ∀ group, group.isEmpty = true → operations group = []) :
    (groups.filter (!·.isEmpty)).flatMap operations = groups.flatMap operations := by
  induction groups with
  | nil => rfl
  | cons group rest induction =>
      cases isEmpty : group.isEmpty with
      | true => simp [isEmpty, induction, empty group isEmpty]
      | false => simp [isEmpty, induction]

theorem forward_eq : context.forward change = context.forwardOf change change.steps := by
  have whole : context.forward change =
      ((context.groups change).filter (!·.isEmpty)).flatMap (·.forward) := by
    unfold forward delta?
    dsimp only
    split
    case isTrue none => simp [List.isEmpty_iff.mp none]
    case isFalse => rfl
  rw [whole, flatMap_filter_nonempty, groups_eq, List.flatMap_map, forwardOf]
  intro group isEmpty
  simp only [Group.isEmpty, Bool.and_eq_true, List.isEmpty_iff] at isEmpty
  exact isEmpty.1

theorem backward_eq : context.backward change = context.backwardOf change change.steps := by
  have whole : context.backward change =
      ((context.groups change).reverse.filter (!·.isEmpty)).flatMap (·.backward) := by
    unfold backward delta?
    dsimp only
    rw [List.filter_reverse]
    split
    case isTrue none => simp [List.isEmpty_iff.mp none]
    case isFalse => rfl
  rw [whole, flatMap_filter_nonempty, groups_eq, ← List.map_reverse, List.flatMap_map, backwardOf]
  intro group isEmpty
  simp only [Group.isEmpty, Bool.and_eq_true, List.isEmpty_iff] at isEmpty
  exact isEmpty.2

theorem forwardOf_cons (step : ChangeStep) (rest : List ChangeStep) :
    context.forwardOf change (step :: rest) =
      (context.stepGroup change step).forward ++ context.forwardOf change rest :=
  List.flatMap_cons

theorem backwardOf_cons (step : ChangeStep) (rest : List ChangeStep) :
    context.backwardOf change (step :: rest) =
      context.backwardOf change rest ++ (context.stepGroup change step).backward := by
  simp [backwardOf]

/-! ## Matching -/

/-- The blueprint is such as the step expects it: what it creates is free, and what it drops or
alters is there as it is said to be. -/
def Fits (state : Blueprint) : ChangeStep → Prop
  | .key transition => ∀ column ∈ context.keyColumn? transition.source, column ∈ state.columns
  | .property (.added name current) => (context.partsOf change name current).Free state
  | .property (.removed name previous) => (context.partsOf change name previous).Present state
  | .property (.modified name previous current) =>
      ∀ old ∈ previous, ∀ new ∈ context.definitionAfter change name current,
        (context.partsOf change name old).Present state
          ∧ (context.partsOf change name new).Free
            (Operation.replay state (context.partsOf change name old).dropping)
  | .property (.renamed source target previous current) =>
      let pairs := context.pairsOf change source target previous current
      state.TakesAll pairs ∧
        ∀ old ∈ previous, ∀ new ∈ current, old.same new = false →
          (context.partsOf change source old).Present state
            ∧ (context.partsOf change target new).Free
              (Operation.replay
                (Operation.replay state (pairs.map fun pair => .renameColumn pair.1 pair.2))
                (context.partsAfterRenaming change source target old new).dropping)
  | .index (.added index) => state.index? (context.indexOf change index).shape = none
  | .index (.removed index) => context.indexOf change index ∈ state.indexes
  | .timestamps true => Parts.Free { columns := timestampColumns } state
  | .timestamps false => Parts.Present { columns := timestampColumns } state
  | .softDelete true => Parts.Free { columns := [softDeleteColumn] } state
  | .softDelete false => Parts.Present { columns := [softDeleteColumn] } state

instance (state : Blueprint) (step : ChangeStep) : Decidable (context.Fits change state step) :=
  match step with
  | .key _ => inferInstanceAs (Decidable (∀ _ ∈ _, _))
  | .property (.added _ _) => inferInstanceAs (Decidable (Parts.Free _ _))
  | .property (.removed _ _) => inferInstanceAs (Decidable (Parts.Present _ _))
  | .property (.modified _ _ _) => inferInstanceAs (Decidable (∀ _ ∈ _, ∀ _ ∈ _, _))
  | .property (.renamed _ _ _ _) => inferInstanceAs (Decidable (_ ∧ ∀ _ ∈ _, ∀ _ ∈ _, _))
  | .index (.added _) => inferInstanceAs (Decidable (_ = none))
  | .index (.removed _) => inferInstanceAs (Decidable (_ ∈ _))
  | .timestamps true => inferInstanceAs (Decidable (Parts.Free _ _))
  | .timestamps false => inferInstanceAs (Decidable (Parts.Present _ _))
  | .softDelete true => inferInstanceAs (Decidable (Parts.Free _ _))
  | .softDelete false => inferInstanceAs (Decidable (Parts.Present _ _))

/-- Every step fits the state in which its turn comes. -/
def FitsAll (state : Blueprint) : List ChangeStep → Prop
  | [] => True
  | step :: rest =>
      context.Fits change state step
        ∧ FitsAll (Operation.replay state (context.stepGroup change step).forward) rest

instance (state : Blueprint) (steps : List ChangeStep) :
    Decidable (context.FitsAll change state steps) := by
  induction steps generalizing state with
  | nil => exact .isTrue trivial
  | cons step rest induction => exact @instDecidableAnd _ _ _ (induction _)

end Context

end Migration
