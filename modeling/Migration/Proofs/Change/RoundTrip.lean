import Migration.Proofs.Change.RenamedParts

namespace Migration

/-! A change is taken back step by step. Each group of operations restores the blueprint that it
was made for, except one: a renaming that reshapes a polymorphic association, if the association
discovers other entities under its new name than under the one before. -/

open Operation (replay Restores)

/-- The key is counted up in a generated column, of either width. -/
def KeyStrategy.IsCounter (strategy : KeyStrategy) : Prop :=
  strategy = .increments ∨ strategy = .bigIncrements

instance (strategy : KeyStrategy) : Decidable strategy.IsCounter :=
  inferInstanceAs (Decidable (_ ∨ _))

namespace Operation

theorem replay_addTimestamps (blueprint : Blueprint) :
    replay blueprint [.addTimestamps] =
      replay blueprint (Parts.creating { columns := timestampColumns }) := rfl

theorem replay_dropTimestamps (blueprint : Blueprint) :
    replay blueprint [.dropTimestamps] =
      replay blueprint (Parts.dropping { columns := timestampColumns }) := by
  rw [replay_dropping, replay_cons, replay_nil, apply, Blueprint.dropColumns_eq]
  simp [timestampColumns]

end Operation

/-- The groups that do nothing but create or drop parts, or turn one definition into another. -/
theorem Operation.Restores.of_replay_eq {forward backward forward' backward' : List Operation}
    {start : Blueprint} (restores : Restores forward' backward' start)
    (sameForward : replay start forward = replay start forward')
    (sameBackward : ∀ outcome, replay outcome backward = replay outcome backward') :
    Restores forward backward start := by
  intro outcome alike
  rw [sameBackward]
  exact restores outcome (sameForward ▸ alike)

namespace Context

variable {context : Context} {change : EntityChange}

/-! ## The groups of the steps -/

theorem stepGroup_counters {transition : Transition KeyStrategy}
    (sourceCounter : transition.source.IsCounter) (targetCounter : transition.target.IsCounter) :
    context.stepGroup change (.key transition) =
      .reshaping { columns := (context.keyColumn? transition.source).toList }
        { columns := (context.keyColumn? transition.target).toList } := by
  rcases transition with ⟨source, target⟩
  rcases sourceCounter with rfl | rfl <;> rcases targetCounter with rfl | rfl <;> rfl

/-- A key that is not just widened or narrowed is dropped and built anew. -/
theorem stepGroup_rebuilding {transition : Transition KeyStrategy}
    (rebuilds : ¬(transition.source.IsCounter ∧ transition.target.IsCounter)) :
    context.stepGroup change (.key transition) =
      let old := context.keyColumn? transition.source
      let new := context.keyColumn? transition.target
      let oldKey := keyColumns (context.definitionOf change) transition.source
      let newKey := keyColumns (context.definitionOf change) transition.target
      ⟨droppingKey old oldKey ++ addingKey new newKey,
        droppingKey new newKey ++ addingKey old oldKey⟩ := by
  have isCounter : ¬((transition.source = .increments || transition.source = .bigIncrements)
      && (transition.target = .increments || transition.target = .bigIncrements)) = true := by
    simpa [KeyStrategy.IsCounter] using rebuilds
  exact if_neg isCounter

theorem stepGroup_modified {name : String} {old new : Property} {current : Option Property}
    (after : new ∈ context.definitionAfter change name current) :
    context.stepGroup change (.property (.modified name (some old) current)) =
      .reshaping (context.partsOf change name old) (context.partsOf change name new) := by
  rw [definitionAfter] at after
  simp only [stepGroup, propertyGroup, Option.mem_def.mp after]
  rfl

/-- A modification does nothing unless it is known from what to what. -/
theorem stepGroup_modified_cases (context : Context) (change : EntityChange) (name : String)
    (previous current : Option Property) :
    (∃ old new, previous = some old ∧ new ∈ context.definitionAfter change name current)
      ∨ (∀ old ∈ previous, context.definitionAfter change name current = none)
        ∧ context.stepGroup change (.property (.modified name previous current)) = {} := by
  cases previous with
  | none => exact .inr ⟨by simp, rfl⟩
  | some old =>
      cases after : context.definitionAfter change name current with
      | some new => exact .inl ⟨old, new, rfl, rfl⟩
      | none =>
          refine .inr ⟨fun _ _ => rfl, ?_⟩
          rw [definitionAfter] at after
          simp [stepGroup, propertyGroup, after]

theorem stepGroup_reshaping_renamed {source target : String} {old new : Property}
    (differ : old.same new = false) :
    context.stepGroup change (.property (.renamed source target (some old) (some new))) =
      let pairs := context.pairsOf change source target (some old) (some new)
      let parts := context.partsAfterRenaming change source target old new
      ⟨pairs.map (fun pair => .renameColumn pair.1 pair.2)
          ++ parts.reshaping (context.partsOf change target new),
        (context.partsOf change target new).reshaping parts
          ++ pairs.reverse.map fun pair => .renameColumn pair.2 pair.1⟩ := by
  simp only [stepGroup, propertyGroup, renameGroup, differ]
  rfl

/-- A renaming reshapes if it is known from what to what, and these differ. -/
theorem renamed_cases (previous current : Option Property) :
    (∃ old new, previous = some old ∧ current = some new ∧ old.same new = false)
      ∨ ∀ old ∈ previous, ∀ new ∈ current, old.same new = true := by
  cases previous with
  | none => simp
  | some old =>
      cases current with
      | none => simp
      | some new => cases same : old.same new <;> simp [same]

theorem stepGroup_renamed {source target : String} {previous current : Option Property}
    (same : ∀ old ∈ previous, ∀ new ∈ current, old.same new = true) :
    context.stepGroup change (.property (.renamed source target previous current)) =
      let pairs := context.pairsOf change source target previous current
      ⟨pairs.map fun pair => .renameColumn pair.1 pair.2,
        pairs.reverse.map fun pair => .renameColumn pair.2 pair.1⟩ := by
  simp only [stepGroup, propertyGroup, renameGroup]
  cases previous with
  | none => simp [pairsOf, definitionOf]
  | some old =>
      cases current with
      | none => simp [pairsOf, definitionOf]
      | some new => simp [pairsOf, definitionOf, same old rfl new rfl]

/-! ## One step -/

/-- Where a reshaping renaming leads to the same entities as before. -/
def KeepsAt (context : Context) (change : EntityChange) : ChangeStep → Prop
  | .property (.renamed source target (some old) (some new)) =>
      old.same new = false → context.KeepsTargets change.entity source target old
  | _ => True

instance (step : ChangeStep) : Decidable (context.KeepsAt change step) :=
  match step with
  | .property (.renamed _ _ (some _) (some _)) => inferInstanceAs (Decidable (_ → _))
  | .property (.renamed _ _ none _) | .property (.renamed _ _ (some _) none)
  | .property (.added _ _) | .property (.removed _ _) | .property (.modified _ _ _)
  | .key _ | .index _ | .timestamps _ | .softDelete _ => .isTrue trivial

/-- The key of the table is not built anew, but at most widened or narrowed. -/
def CountersAt : ChangeStep → Prop
  | .key transition => transition.source.IsCounter ∧ transition.target.IsCounter
  | _ => True

instance (step : ChangeStep) : Decidable (CountersAt step) :=
  match step with
  | .key _ => inferInstanceAs (Decidable (_ ∧ _))
  | .property _ | .index _ | .timestamps _ | .softDelete _ => .isTrue trivial

variable {state : Blueprint} {step : ChangeStep}

theorem admissible_step (fits : context.Fits change state step) (counters : CountersAt step) :
    Operation.AdmissibleRun state (context.stepGroup change step).forward := by
  cases step with
  | key transition =>
      rw [stepGroup_counters counters.1 counters.2]
      exact Operation.admissible_reshaping ..
  | property property =>
      cases property with
      | added name current => exact Operation.admissible_creating ..
      | removed name previous => exact Operation.admissible_dropping ..
      | modified name previous current =>
          rcases context.stepGroup_modified_cases change name previous current with
            ⟨old, new, rfl, after⟩ | ⟨_, idle⟩
          · rw [stepGroup_modified after]
            exact Operation.admissible_reshaping ..
          · rw [idle]
            trivial
      | renamed source target previous current =>
          rcases renamed_cases previous current with ⟨old, new, rfl, rfl, differ⟩ | same
          · rw [stepGroup_reshaping_renamed differ]
            exact Operation.throughout_append.mpr
              ⟨Operation.admissible_renaming fits.1, Operation.admissible_reshaping ..⟩
          · rw [stepGroup_renamed same]
            exact Operation.admissible_renaming fits.1
  | index index => cases index <;> exact ⟨trivial, trivial⟩
  | timestamps enabled => cases enabled <;> exact ⟨trivial, trivial⟩
  | softDelete enabled => cases enabled <;> exact ⟨trivial, trivial⟩

theorem distinct_step (distinct : state.Distinct) (fits : context.Fits change state step)
    (counters : CountersAt step) :
    (replay state (context.stepGroup change step).forward).Distinct :=
  distinct.replay (admissible_step fits counters)

theorem admissible_steps {steps : List ChangeStep} (fits : context.FitsAll change state steps)
    (counters : ∀ step ∈ steps, CountersAt step) :
    Operation.AdmissibleRun state (context.forwardOf change steps) := by
  induction steps generalizing state with
  | nil => trivial
  | cons step rest induction =>
      have ⟨stepCounters, restCounters⟩ := List.forall_mem_cons.mp counters
      rw [forwardOf_cons]
      exact Operation.throughout_append.mpr
        ⟨admissible_step fits.1 stepCounters, induction fits.2 restCounters⟩

theorem keyColumn?_of_isCounter {strategy : KeyStrategy} (counter : strategy.IsCounter) :
    ∃ column, context.keyColumn? strategy = some column ∧ column.name = "id" := by
  rcases counter with rfl | rfl <;> exact ⟨_, rfl, rfl⟩

/-- The generated column keeps its name, so one stands where the other stood. -/
theorem restores_counters (distinct : state.Distinct) {source target : KeyStrategy}
    (sourceCounter : source.IsCounter) (targetCounter : target.IsCounter)
    (stands : ∀ column ∈ context.keyColumn? source, column ∈ state.columns) :
    Restores
      (Parts.reshaping { columns := (context.keyColumn? source).toList }
        { columns := (context.keyColumn? target).toList })
      (Parts.reshaping { columns := (context.keyColumn? target).toList }
        { columns := (context.keyColumn? source).toList }) state := by
  rcases context.keyColumn?_of_isCounter sourceCounter with ⟨old, oldColumn, oldName⟩
  rcases context.keyColumn?_of_isCounter targetCounter with ⟨new, newColumn, newName⟩
  rw [oldColumn] at stands
  rw [oldColumn, newColumn]
  apply Operation.restores_reshaping distinct
  · exact ⟨by simpa using stands, by simp, by simp⟩
  · refine ⟨?_, by simp, by simp⟩
    intro column member
    rw [List.mem_singleton.mp member, Operation.replay_dropping]
    refine (ByKey.find?_drop ..).trans (if_pos ?_)
    simp [oldName, newName]
  · exact ⟨by simp [ByKey.Single], by simp [ByKey.Single]⟩

theorem restores_step (distinct : state.Distinct) (fits : context.Fits change state step)
    (counters : CountersAt step) (keeps : context.KeepsAt change step) :
    Restores (context.stepGroup change step).forward (context.stepGroup change step).backward
      state := by
  have unambiguous (name : String) (property : Property) :=
    (context.partsOf_modest change name property).unambiguous
  cases step with
  | key transition =>
      rw [stepGroup_counters counters.1 counters.2]
      exact restores_counters distinct counters.1 counters.2 fits
  | property property =>
      cases property with
      | added name current => exact Operation.restores_creating distinct fits
      | removed name previous => exact Operation.restores_dropping distinct fits
      | modified name previous current =>
          rcases context.stepGroup_modified_cases change name previous current with
            ⟨old, new, rfl, after⟩ | ⟨_, idle⟩
          · rw [stepGroup_modified after]
            have ⟨present, free⟩ := fits old rfl new after
            exact Operation.restores_reshaping distinct present free (unambiguous name new)
          · rw [idle]
            exact .nil state
      | renamed source target previous current =>
          have ⟨takes, reshapes⟩ := fits
          rcases renamed_cases previous current with ⟨old, new, rfl, rfl, differ⟩ | same
          · rw [stepGroup_reshaping_renamed differ]
            have ⟨present, free⟩ := reshapes old rfl new rfl differ
            have moved := present.movedBy
              (context.pairsOf change source target (some old) (some new))
            rw [← partsAfterRenaming_eq takes present (keeps differ)] at moved
            exact (Operation.restores_renaming takes).append (Operation.restores_reshaping
              (distinct.replay (Operation.admissible_renaming takes)) moved free
              (unambiguous target new))
          · rw [stepGroup_renamed same]
            exact Operation.restores_renaming takes
  | index index =>
      cases index with
      | added index =>
          have free : Parts.Free { indexes := [context.indexOf change index] } state :=
            ⟨by simp, by simp, by simpa [Fits] using fits⟩
          exact Operation.restores_creating distinct free
      | removed index =>
          have present : Parts.Present { indexes := [context.indexOf change index] } state :=
            ⟨by simp, by simp, by simpa [Fits] using fits⟩
          exact Operation.restores_dropping distinct present
  | timestamps enabled =>
      cases enabled with
      | true =>
          exact (Operation.restores_creating distinct fits).of_replay_eq
            (Operation.replay_addTimestamps state) Operation.replay_dropTimestamps
      | false =>
          exact (Operation.restores_dropping distinct fits).of_replay_eq
            (Operation.replay_dropTimestamps state) Operation.replay_addTimestamps
  | softDelete enabled =>
      cases enabled with
      | true => exact Operation.restores_creating distinct fits
      | false => exact Operation.restores_dropping distinct fits

/-- From wherever the way back ends in the blueprint, the step kept what its property leads to. -/
theorem keepsAt_of_restored (distinct : state.Distinct) (fits : context.Fits change state step)
    {outcome : Blueprint}
    (restored : (replay outcome (context.stepGroup change step).backward).Alike state) :
    context.KeepsAt change step := by
  cases step with
  | property property =>
      cases property with
      | renamed source target previous current =>
          rcases renamed_cases previous current with ⟨old, new, rfl, rfl, differ⟩ | same
          · intro _
            rw [stepGroup_reshaping_renamed differ] at restored
            have ⟨present, _⟩ := fits.2 old rfl new rfl differ
            rw [Operation.replay_append] at restored
            exact keepsTargets_of_restored distinct present restored
          · cases previous with
            | none => trivial
            | some old =>
                cases current with
                | none => trivial
                | some new =>
                    intro differ
                    rw [same old rfl new rfl] at differ
                    contradiction
      | _ => trivial
  | _ => trivial

/-! ## All steps -/

/-- From every state on the way, the rest of the steps can be made and taken back. -/
def UndoneFrom (context : Context) (change : EntityChange) : Blueprint → List ChangeStep → Prop
  | _, [] => True
  | state, step :: rest =>
      (replay (replay state (context.forwardOf change (step :: rest)))
          (context.backwardOf change (step :: rest))).Alike state
        ∧ UndoneFrom context change (replay state (context.stepGroup change step).forward) rest

variable {steps : List ChangeStep}

theorem restores_steps (distinct : state.Distinct) (fits : context.FitsAll change state steps)
    (counters : ∀ step ∈ steps, CountersAt step)
    (keeps : ∀ step ∈ steps, context.KeepsAt change step) :
    Restores (context.forwardOf change steps) (context.backwardOf change steps) state := by
  induction steps generalizing state with
  | nil => exact .nil state
  | cons step rest induction =>
      have ⟨stepCounters, restCounters⟩ := List.forall_mem_cons.mp counters
      have ⟨stepKeeps, restKeeps⟩ := List.forall_mem_cons.mp keeps
      rw [forwardOf_cons, backwardOf_cons]
      exact (restores_step distinct fits.1 stepCounters stepKeeps).append
        (induction (distinct_step distinct fits.1 stepCounters) fits.2 restCounters restKeeps)

theorem undoneFrom_of_keeps (distinct : state.Distinct) (fits : context.FitsAll change state steps)
    (counters : ∀ step ∈ steps, CountersAt step)
    (keeps : ∀ step ∈ steps, context.KeepsAt change step) :
    context.UndoneFrom change state steps := by
  induction steps generalizing state with
  | nil => trivial
  | cons step rest induction =>
      refine ⟨(restores_steps distinct fits counters keeps).replay_alike, ?_⟩
      have ⟨stepCounters, restCounters⟩ := List.forall_mem_cons.mp counters
      have ⟨_, restKeeps⟩ := List.forall_mem_cons.mp keeps
      exact induction (distinct_step distinct fits.1 stepCounters) fits.2 restCounters restKeeps

theorem keeps_of_undoneFrom (distinct : state.Distinct) (fits : context.FitsAll change state steps)
    (counters : ∀ step ∈ steps, CountersAt step) (undone : context.UndoneFrom change state steps) :
    ∀ step ∈ steps, context.KeepsAt change step := by
  induction steps generalizing state with
  | nil => simp
  | cons step rest induction =>
      have ⟨stepCounters, restCounters⟩ := List.forall_mem_cons.mp counters
      have ⟨whole, later⟩ := undone
      rw [backwardOf_cons, Operation.replay_append] at whole
      exact List.forall_mem_cons.mpr ⟨keepsAt_of_restored distinct fits.1 whole,
        induction (distinct_step distinct fits.1 stepCounters) fits.2 restCounters later⟩

/-- A change that matches its table is taken back, up to the order of columns and constraints, if
every reshaping renaming leads to the same entities as before; and it is taken back from every
state on the way if and only if that is so. -/
theorem replay_forward_backward_alike {start : Blueprint} (distinct : start.Distinct)
    (counters : ∀ step ∈ change.steps, CountersAt step)
    (fits : context.FitsAll change start change.steps) :
    ((∀ step ∈ change.steps, context.KeepsAt change step) →
        (replay (replay start (context.forward change)) (context.backward change)).Alike start)
      ∧ (context.UndoneFrom change start change.steps ↔
        ∀ step ∈ change.steps, context.KeepsAt change step) := by
  rw [forward_eq, backward_eq]
  refine ⟨fun keeps => (restores_steps distinct fits counters keeps).replay_alike, ?_⟩
  exact ⟨keeps_of_undoneFrom distinct fits counters, undoneFrom_of_keeps distinct fits counters⟩

/-! A change of posts that renames, modifies, removes and adds columns, adds an index, widens the
key and switches an option on. -/

def postContext : Context :=
  .ofSettings { entities := [("User", { name := "User" }), ("Post", { name := "Post" })] } {}

def postChange : EntityChange where
  entity := "Post"
  columns := [
    .renamed "author" "editor" (some (.association { relation := .manyToOne, target := "User" }))
      (some (.association { relation := .manyToOne, target := "User", nullable := some true })),
    .modified "title" (some (.scalar { typeName := "string" }))
      (some (.scalar { typeName := "text", indexed := true })),
    .removed "draft" (.scalar { typeName := "boolean" }),
    .added "slug" (.scalar { typeName := "string" })]
  indexes := [.added { columns := ["slug"], unique := true }]
  options := { key := some ⟨.increments, .bigIncrements⟩, softDelete := some ⟨false, true⟩ }

def postTable : Blueprint where
  table := "posts"
  columns := [
    { name := "id", storage := .increments, modifiers := [.primary] },
    { name := "title", storage := .string, args := { length := some 255 } },
    { name := "draft", storage := .boolean },
    { name := "author_id", storage := .unsignedBigInteger }]
  primaryKey := ["id"]
  foreignKeys := [
    { name := "posts_author_id_foreign", columns := ["author_id"], referencedTable := "users",
      referencedColumn := "id", onDelete := .restrict, onUpdate := .cascade }]
  indexes := [{ name := "posts_author_id_index", columns := ["author_id"], unique := false }]

theorem postChange_taken_back :
    postTable.Distinct ∧ (∀ step ∈ postChange.steps, CountersAt step)
      ∧ postContext.FitsAll postChange postTable postChange.steps
      ∧ (∀ step ∈ postChange.steps, postContext.KeepsAt postChange step)
      ∧ (replay (replay postTable (postContext.forward postChange))
          (postContext.backward postChange)).Alike postTable := by
  have distinct : postTable.Distinct := by decide
  have counters : ∀ step ∈ postChange.steps, CountersAt step := by decide +kernel
  have fits : postContext.FitsAll postChange postTable postChange.steps := by decide +kernel
  have keeps : ∀ step ∈ postChange.steps, postContext.KeepsAt postChange step := by decide +kernel
  exact ⟨distinct, counters, fits, keeps,
    (replay_forward_backward_alike distinct counters fits).1 keeps⟩

/-! Comments on whatever the schema says can be commented on. The posts say so of their comments
under the name `commentable`, and nobody under the name `subject`. -/

def commentContext : Context :=
  .ofSettings {
    entities := [
      ("Post", { name := "Post", properties := [("comments", .association
        { relation := .morphMany, target := "Comment", morphName := some "commentable" })] }),
      ("Comment", { name := "Comment", properties := [("commentable", .association
        { relation := .morphTo })] })] } {}

def commentChange : EntityChange where
  entity := "Comment"
  columns := [.renamed "commentable" "subject" (some (.association { relation := .morphTo }))
    (some (.association { relation := .morphTo, nullable := some false }))]

def commentTable : Blueprint where
  table := "comments"
  columns := [
    { name := "id", storage := .bigIncrements, modifiers := [.primary] },
    { name := "commentable_type", storage := .enumeration, args := { values := ["Post"] },
      modifiers := [.nullable] },
    { name := "commentable_id", storage := .unsignedBigInteger, modifiers := [.nullable] }]
  primaryKey := ["id"]
  indexes := [
    { name := "comments_commentable_type_commentable_id_index",
      columns := ["commentable_type", "commentable_id"], unique := false }]

/-- The renaming matches the table, and yet the way back leaves a column for the type that no
longer says that it is one of a list. -/
theorem commentChange_not_taken_back :
    commentTable.Distinct ∧ (∀ step ∈ commentChange.steps, CountersAt step)
      ∧ commentContext.FitsAll commentChange commentTable commentChange.steps
      ∧ ¬(replay (replay commentTable (commentContext.forward commentChange))
          (commentContext.backward commentChange)).Alike commentTable := by
  refine ⟨by decide, by decide +kernel, by decide +kernel, fun alike => ?_⟩
  have lost : ∃ column ∈ commentTable.columns,
      column ∉ (replay (replay commentTable (commentContext.forward commentChange))
        (commentContext.backward commentChange)).columns := by decide +kernel
  rcases lost with ⟨column, stood, gone⟩
  exact gone (alike.columns.symm.subset stood)

end Context

end Migration
