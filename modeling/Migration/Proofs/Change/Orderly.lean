import Migration.Proofs.Change.RoundTrip
import Migration.Proofs.Operation.Orderly

namespace Migration

/-! Whether a change creates constraints only where their columns are and drops columns only where
no constraint is over them. Within the group of a step the operations are in the right order, so
it is a matter of what the blueprint is like when the turn of the step comes, on the way there and
on the way back. -/

open Operation (replay Orderly OrderlyRun)

/-- Constraints that follow their columns to names that the new columns have. -/
theorem Parts.Grounded.renamingColumns {parts : Parts} (grounded : parts.Grounded)
    {pairs : List (String × String)} {columns : List Column}
    (moved : ∀ name ∈ ByKey.keys Column.name parts.columns,
      (pairs.lookup name).getD name ∈ ByKey.keys Column.name columns) :
    { parts.renamingColumns pairs with columns := columns }.Grounded := by
  constructor
  · intro foreignKey member name named
    rcases List.mem_map.mp member with ⟨before, beforeMember, rfl⟩
    rcases List.mem_map.mp named with ⟨column, columnNamed, rfl⟩
    exact moved column (grounded.foreignKeys before beforeMember column columnNamed)
  · intro index member name named
    rcases List.mem_map.mp member with ⟨before, beforeMember, rfl⟩
    rcases List.mem_map.mp named with ⟨column, columnNamed, rfl⟩
    exact moved column (grounded.indexes before beforeMember column columnNamed)

/-- The step switches something on or off for the whole table. -/
def ChangeStep.IsOption : ChangeStep → Prop
  | .timestamps _ | .softDelete _ => True
  | _ => False

theorem EntityChange.optionsLast (change : EntityChange) :
    change.steps.Pairwise fun earlier later => earlier.IsOption → later.IsOption := by
  let ordinary := ((change.options.key.filter (·.isChange)).map ChangeStep.key).toList
    ++ change.columns.map .property ++ change.indexes.map .index
  let options := ((change.options.timestamps.filter (·.isChange)).map
      fun transition => ChangeStep.timestamps transition.target).toList
    ++ ((change.options.softDelete.filter (·.isChange)).map
      fun transition => ChangeStep.softDelete transition.target).toList
  have allOrdinary : ∀ step ∈ ordinary, ¬step.IsOption := by
    intro step member
    simp only [ordinary, List.mem_append, Option.mem_toList, Option.map_eq_some_iff,
      List.mem_map] at member
    rcases member with (⟨_, _, rfl⟩ | ⟨_, _, rfl⟩) | ⟨_, _, rfl⟩ <;> exact id
  have allOptions : ∀ step ∈ options, step.IsOption := by
    intro step member
    simp only [options, List.mem_append, Option.mem_toList, Option.map_eq_some_iff] at member
    rcases member with ⟨_, _, rfl⟩ | ⟨_, _, rfl⟩ <;> trivial
  have split : change.steps = ordinary ++ options := List.append_assoc ..
  rw [split]
  refine List.pairwise_append.mpr ⟨?_, ?_, ?_⟩
  · exact List.pairwise_of_forall_mem_list fun earlier member _ _ isOption =>
      absurd isOption (allOrdinary earlier member)
  · exact List.pairwise_of_forall_mem_list fun _ _ later member _ => allOptions later member
  · exact fun _ _ later member _ => allOptions later member

namespace Context

variable (context : Context) (change : EntityChange)

/-- What the step drops is needed by no constraint that stays, and what it adds is not without its
columns. -/
def Clears (state : Blueprint) : ChangeStep → Prop
  | .key transition =>
      (transition.source.IsCounter ∧ transition.target.IsCounter)
        ∨ ∀ column ∈ context.keyColumn? transition.source, state.Unnamed column.name
  | .property (.added _ _) => True
  | .property (.removed name previous) => state.Sheds (context.partsOf change name previous) {}
  | .property (.modified name previous current) =>
      ∀ old ∈ previous, ∀ new ∈ context.definitionAfter change name current,
        state.Sheds (context.partsOf change name old) (context.partsOf change name new)
  | .property (.renamed source target previous current) =>
      let pairs := context.pairsOf change source target previous current
      ∀ old ∈ previous, ∀ new ∈ current, old.same new = false →
        (replay state (pairs.map fun pair => .renameColumn pair.1 pair.2)).Sheds
          (context.partsAfterRenaming change source target old new)
          (context.partsOf change target new)
  | .index (.added index) => state.HasColumns (context.indexOf change index).columns
  | .index (.removed _) => True
  | .timestamps _ | .softDelete _ => True

/-- The same for the step on the way back. -/
def ClearsBack (state : Blueprint) : ChangeStep → Prop
  | .key transition =>
      (transition.source.IsCounter ∧ transition.target.IsCounter)
        ∨ ∀ column ∈ context.keyColumn? transition.target, state.Unnamed column.name
  | .property (.added name current) => state.Sheds (context.partsOf change name current) {}
  | .property (.removed _ _) => True
  | .property (.modified name previous current) =>
      ∀ old ∈ previous, ∀ new ∈ context.definitionAfter change name current,
        state.Sheds (context.partsOf change name new) (context.partsOf change name old)
  | .property (.renamed source target previous current) =>
      ∀ old ∈ previous, ∀ new ∈ current, old.same new = false →
        state.Sheds (context.partsOf change target new)
          (context.partsAfterRenaming change source target old new)
  | .index (.added _) => True
  | .index (.removed index) => state.HasColumns (context.indexOf change index).columns
  | .timestamps _ | .softDelete _ => True

/-- Every step clears the state in which its turn comes. -/
def ClearsAll (state : Blueprint) : List ChangeStep → Prop
  | [] => True
  | step :: rest =>
      context.Clears change state step
        ∧ ClearsAll (replay state (context.stepGroup change step).forward) rest

/-- The steps are taken back from the last to the first. -/
def ClearsBackAll (state : Blueprint) : List ChangeStep → Prop
  | [] => True
  | step :: rest =>
      ClearsBackAll state rest
        ∧ context.ClearsBack change (replay state (context.backwardOf change rest)) step

instance (state : Blueprint) (step : ChangeStep) : Decidable (context.Clears change state step) :=
  match step with
  | .key _ => inferInstanceAs (Decidable (_ ∨ ∀ _ ∈ _, _))
  | .property (.added _ _) => .isTrue trivial
  | .property (.removed _ _) => inferInstanceAs (Decidable (Blueprint.Sheds _ _ _))
  | .property (.modified _ _ _) => inferInstanceAs (Decidable (∀ _ ∈ _, ∀ _ ∈ _, _))
  | .property (.renamed _ _ _ _) => inferInstanceAs (Decidable (∀ _ ∈ _, ∀ _ ∈ _, _))
  | .index (.added _) => inferInstanceAs (Decidable (Blueprint.HasColumns _ _))
  | .index (.removed _) | .timestamps _ | .softDelete _ => .isTrue trivial

instance (state : Blueprint) (steps : List ChangeStep) :
    Decidable (context.ClearsAll change state steps) := by
  induction steps generalizing state with
  | nil => exact .isTrue trivial
  | cons step rest induction => exact @instDecidableAnd _ _ _ (induction _)

/-! ## One step -/

variable {context} {change}

/-- The constraints follow the columns to their new names. -/
theorem grounded_partsAfterRenaming (source target : String) (previous current : Property) :
    (context.partsAfterRenaming change source target previous current).Grounded := by
  have grounded := (context.partsOf_modest change source previous).toGrounded
  rcases context.exists_followStem_partsOf change previous with ⟨templates, follows, _⟩
  have former : (context.partsOf change source previous).columns =
      columnsUnder (previous.stem source) (templates source) := follows.columns source
  have later : (context.partsOf change target previous).columns =
      columnsUnder (previous.stem target) (templates target) := follows.columns target
  have moved : ∀ name ∈ ByKey.keys Column.name (context.partsOf change source previous).columns,
      ((context.pairsOf change source target (some previous) (some current)).lookup name).getD name
        ∈ ByKey.keys Column.name (context.partsOf change target previous).columns := by
    intro name member
    rw [former, keys_columnsUnder, List.map_map] at member
    rcases List.mem_map.mp member with ⟨template, templateMember, rfl⟩
    have ending : template.name ∈ (templates source).map (·.name) :=
      List.mem_map_of_mem templateMember
    rw [pairsOf_eq follows (List.ne_nil_of_mem templateMember), Function.comp_apply,
      lookup_stemPairs _ _ ending, later, keys_columnsUnder, follows.endings target source]
    exact List.mem_map_of_mem ending
  exact grounded.renamingColumns moved

theorem orderlyRun_rebuilding {state : Blueprint} {old new : Option Column}
    {oldKey newKey : List String} :
    OrderlyRun state (droppingKey old oldKey ++ addingKey new newKey) ↔
      ∀ column ∈ old, state.Unnamed column.name := by
  have unkeyed : OrderlyRun state (if oldKey.isEmpty then [] else [.dropPrimary oldKey]) := by
    split <;> simp [OrderlyRun, Operation.Throughout, Orderly]
  have sameConstraints (name : String) :
      (replay state (if oldKey.isEmpty then [] else [.dropPrimary oldKey])).Unnamed name ↔
        state.Unnamed name := by
    split <;> exact Iff.rfl
  have keyed (start : Blueprint) : OrderlyRun start (addingKey new newKey) := by
    refine Operation.throughout_append.mpr ⟨Operation.orderlyRun_map fun _ _ => trivial, ?_⟩
    split <;> simp [Operation.Throughout, Orderly]
  rw [droppingKey, OrderlyRun, Operation.throughout_append, Operation.throughout_append]
  constructor
  · rintro ⟨⟨_, columns⟩, _⟩ column member
    rw [← sameConstraints]
    exact Operation.orderlyRun_dropColumns.mp columns column (Option.mem_toList.mpr member)
  · intro unnamed
    refine ⟨⟨unkeyed, Operation.orderlyRun_dropColumns.mpr ?_⟩, keyed _⟩
    intro column member
    rw [sameConstraints]
    exact unnamed column (Option.mem_toList.mp member)

/-- A generated column is altered in place. -/
theorem orderlyRun_counters {state : Blueprint} {source target : KeyStrategy}
    (sourceCounter : source.IsCounter) (targetCounter : target.IsCounter) :
    OrderlyRun state (Parts.reshaping { columns := (context.keyColumn? source).toList }
      { columns := (context.keyColumn? target).toList }) := by
  rcases context.keyColumn?_of_isCounter sourceCounter with ⟨old, oldColumn, oldName⟩
  rcases context.keyColumn?_of_isCounter targetCounter with ⟨new, newColumn, newName⟩
  rw [oldColumn, newColumn]
  refine (Operation.orderlyRun_reshaping ⟨by simp, by simp⟩).mpr ?_
  intro column stale
  have isStale := Operation.mem_keys_staleColumns.mp (ByKey.mem_keys_of_mem Column.name stale)
  simp [oldName, newName] at isStale

/-! A step that reshapes asks something of the blueprint only if both definitions are known and, in
a renaming, differ. -/

section

variable {holds : Property → Property → Prop} {previous : Option Property}

theorem forall_known_iff {name : String} {old new : Property} {current : Option Property}
    (after : new ∈ context.definitionAfter change name current) :
    (∀ former ∈ some old, ∀ later ∈ context.definitionAfter change name current,
      holds former later) ↔ holds old new := by
  simp [Option.mem_def.mp after]

theorem forall_of_unknown {after : Option Property} (unknown : ∀ old ∈ previous, after = none) :
    ∀ old ∈ previous, ∀ new ∈ after, holds old new := by
  intro old known new isAfter
  rw [unknown old known] at isAfter
  contradiction

theorem forall_of_same {current : Option Property}
    (same : ∀ old ∈ previous, ∀ new ∈ current, old.same new = true) :
    ∀ old ∈ previous, ∀ new ∈ current, old.same new = false → holds old new := by
  intro old known new after differ
  rw [same old known new after] at differ
  contradiction

end

variable {state : Blueprint} {step : ChangeStep}

/-- A step makes its own way in order if the state is such that it may. -/
theorem orderlyRun_forward_iff :
    OrderlyRun state (context.stepGroup change step).forward ↔
      context.Clears change state step := by
  cases step with
  | key transition =>
      by_cases counters : transition.source.IsCounter ∧ transition.target.IsCounter
      · rw [stepGroup_counters counters.1 counters.2]
        exact iff_of_true (orderlyRun_counters counters.1 counters.2) (.inl counters)
      · rw [stepGroup_rebuilding counters]
        exact orderlyRun_rebuilding.trans (or_iff_right counters).symm
  | property property =>
      cases property with
      | added name current =>
          have grounded := (context.partsOf_modest change name current).toGrounded
          exact iff_of_true (Operation.orderlyRun_creating grounded) trivial
      | removed name previous => exact Operation.orderlyRun_dropping
      | modified name previous current =>
          rcases context.stepGroup_modified_cases change name previous current with
            ⟨old, new, rfl, after⟩ | ⟨unknown, idle⟩
          · rw [stepGroup_modified after, Clears, forall_known_iff after]
            exact Operation.orderlyRun_reshaping (context.partsOf_modest ..).toGrounded
          · rw [idle]
            exact iff_of_true trivial (forall_of_unknown unknown)
      | renamed source target previous current =>
          rcases renamed_cases previous current with ⟨old, new, rfl, rfl, differ⟩ | same
          · rw [stepGroup_reshaping_renamed differ, OrderlyRun, Operation.throughout_append]
            refine Iff.trans (and_iff_right (Operation.orderlyRun_map fun _ _ => trivial)) ?_
            refine (Operation.orderlyRun_reshaping (context.partsOf_modest ..).toGrounded).trans ?_
            simp [Clears, differ]
          · rw [stepGroup_renamed same]
            exact iff_of_true (Operation.orderlyRun_map fun _ _ => trivial) (forall_of_same same)
  | index index =>
      cases index with
      | added index => exact and_iff_left trivial
      | removed index => exact iff_of_true ⟨trivial, trivial⟩ trivial
  | timestamps enabled => cases enabled <;> exact iff_of_true ⟨trivial, trivial⟩ trivial
  | softDelete enabled => cases enabled <;> exact iff_of_true ⟨trivial, trivial⟩ trivial

theorem orderlyRun_backward_iff :
    OrderlyRun state (context.stepGroup change step).backward ↔
      context.ClearsBack change state step := by
  cases step with
  | key transition =>
      by_cases counters : transition.source.IsCounter ∧ transition.target.IsCounter
      · rw [stepGroup_counters counters.1 counters.2]
        exact iff_of_true (orderlyRun_counters counters.2 counters.1) (.inl counters)
      · rw [stepGroup_rebuilding counters]
        exact orderlyRun_rebuilding.trans (or_iff_right counters).symm
  | property property =>
      cases property with
      | added name current => exact Operation.orderlyRun_dropping
      | removed name previous =>
          have grounded := (context.partsOf_modest change name previous).toGrounded
          exact iff_of_true (Operation.orderlyRun_creating grounded) trivial
      | modified name previous current =>
          rcases context.stepGroup_modified_cases change name previous current with
            ⟨old, new, rfl, after⟩ | ⟨unknown, idle⟩
          · rw [stepGroup_modified after, ClearsBack, forall_known_iff after]
            exact Operation.orderlyRun_reshaping (context.partsOf_modest ..).toGrounded
          · rw [idle]
            exact iff_of_true trivial (forall_of_unknown unknown)
      | renamed source target previous current =>
          rcases renamed_cases previous current with ⟨old, new, rfl, rfl, differ⟩ | same
          · rw [stepGroup_reshaping_renamed differ, OrderlyRun, Operation.throughout_append]
            refine Iff.trans (and_iff_left (Operation.orderlyRun_map fun _ _ => trivial)) ?_
            refine (Operation.orderlyRun_reshaping (grounded_partsAfterRenaming ..)).trans ?_
            simp [ClearsBack, differ]
          · rw [stepGroup_renamed same]
            exact iff_of_true (Operation.orderlyRun_map fun _ _ => trivial) (forall_of_same same)
  | index index =>
      cases index with
      | added index => exact iff_of_true ⟨trivial, trivial⟩ trivial
      | removed index => exact and_iff_left trivial
  | timestamps enabled => cases enabled <;> exact iff_of_true ⟨trivial, trivial⟩ trivial
  | softDelete enabled => cases enabled <;> exact iff_of_true ⟨trivial, trivial⟩ trivial

/-! ## All steps -/

theorem orderlyRun_forwardOf_iff {steps : List ChangeStep} :
    OrderlyRun state (context.forwardOf change steps) ↔ context.ClearsAll change state steps := by
  induction steps generalizing state with
  | nil => exact Iff.rfl
  | cons step rest induction =>
      rw [forwardOf_cons, OrderlyRun, Operation.throughout_append]
      exact and_congr orderlyRun_forward_iff induction

theorem orderlyRun_backwardOf_iff {steps : List ChangeStep} :
    OrderlyRun state (context.backwardOf change steps) ↔
      context.ClearsBackAll change state steps := by
  induction steps generalizing state with
  | nil => exact Iff.rfl
  | cons step rest induction =>
      rw [backwardOf_cons, OrderlyRun, Operation.throughout_append]
      exact and_congr induction orderlyRun_backward_iff

/-! ## Changes that match

Where every step fits, the way back is in order as soon as the way there is. -/

theorem guarded_of_onPart {operations : List Operation}
    (onPart : ∀ operation ∈ operations, operation.OnPart) :
    ∀ operation ∈ operations, ¬operation.Unguarded := by
  intro operation member unguarded
  have here := onPart operation member
  cases operation <;> first | exact here | exact unguarded

theorem guarded_renaming (pairs : List (String × String)) :
    ∀ operation ∈ pairs.map fun pair => Operation.renameColumn pair.1 pair.2,
      ¬operation.Unguarded := by
  intro operation member
  rcases List.mem_map.mp member with ⟨pair, _, rfl⟩
  exact id

theorem guarded_step (counters : CountersAt step) (ordinary : ¬step.IsOption) :
    ∀ operation ∈ (context.stepGroup change step).forward, ¬operation.Unguarded := by
  cases step with
  | key transition =>
      rw [stepGroup_counters counters.1 counters.2]
      exact guarded_of_onPart (Operation.onPart_reshaping _ _)
  | property property =>
      cases property with
      | added name current => exact guarded_of_onPart (Operation.onPart_creating _)
      | removed name previous => exact guarded_of_onPart (Operation.onPart_dropping _)
      | modified name previous current =>
          rcases context.stepGroup_modified_cases change name previous current with
            ⟨old, new, rfl, after⟩ | ⟨_, idle⟩
          · rw [stepGroup_modified after]
            exact guarded_of_onPart (Operation.onPart_reshaping _ _)
          · rw [idle]
            exact fun operation member => absurd member List.not_mem_nil
      | renamed source target previous current =>
          rcases renamed_cases previous current with ⟨old, new, rfl, rfl, differ⟩ | same
          · rw [stepGroup_reshaping_renamed differ]
            exact List.forall_mem_append.mpr
              ⟨guarded_renaming _, guarded_of_onPart (Operation.onPart_reshaping _ _)⟩
          · rw [stepGroup_renamed same]
            exact guarded_renaming _
  | index index =>
      cases index <;> exact List.forall_mem_singleton.mpr id
  | timestamps enabled => exact absurd trivial ordinary
  | softDelete enabled => exact absurd trivial ordinary

/-- What a step has made of a blueprint that it fits can be taken back in order. -/
theorem clearsBack_step (grounded : state.Grounded) (fits : context.Fits change state step)
    (counters : CountersAt step) :
    context.ClearsBack change (replay state (context.stepGroup change step).forward) step := by
  cases step with
  | key transition => exact .inl counters
  | property property =>
      cases property with
      | added name current => exact grounded.sheds_created fits.columns
      | removed name previous => trivial
      | modified name previous current =>
          intro old known new after
          rw [Option.mem_def.mp known, stepGroup_modified after]
          exact grounded.sheds_reshaped (fits old known new after).2
      | renamed source target previous current =>
          intro old known new after differ
          have ⟨_, free⟩ := fits.2 old known new after differ
          rw [Option.mem_def.mp known, Option.mem_def.mp after] at free ⊢
          rw [stepGroup_reshaping_renamed differ]
          dsimp only
          rw [Operation.replay_append]
          have renames : OrderlyRun state
              ((context.pairsOf change source target (some old) (some new)).map
                fun pair => .renameColumn pair.1 pair.2) :=
            Operation.orderlyRun_map fun _ _ => trivial
          exact (grounded.replay renames (guarded_renaming _)).sheds_reshaped free
  | index index =>
      cases index with
      | added index => trivial
      | removed index => exact grounded.indexes _ fits
  | timestamps enabled => trivial
  | softDelete enabled => trivial

theorem ClearsBack.alike {left right : Blueprint} (clears : context.ClearsBack change left step)
    (alike : left.Alike right) : context.ClearsBack change right step := by
  cases step with
  | key transition =>
      exact clears.imp_right fun unnamed column made => alike.unnamed (unnamed column made)
  | property property =>
      cases property with
      | added name current => exact alike.sheds clears
      | removed name previous => trivial
      | modified name previous current =>
          exact fun old known new after => alike.sheds (clears old known new after)
      | renamed source target previous current =>
          exact fun old known new after differ => alike.sheds (clears old known new after differ)
  | index index =>
      cases index with
      | added index => trivial
      | removed index => exact alike.hasColumns clears
  | timestamps enabled => trivial
  | softDelete enabled => trivial

theorem clearsBackAll_of_options {steps : List ChangeStep}
    (options : ∀ step ∈ steps, step.IsOption) : context.ClearsBackAll change state steps := by
  induction steps generalizing state with
  | nil => trivial
  | cons step rest induction =>
      have ⟨isOption, restOptions⟩ := List.forall_mem_cons.mp options
      refine ⟨induction restOptions, ?_⟩
      cases step with
      | timestamps enabled => trivial
      | softDelete enabled => trivial
      | _ => exact isOption.elim

/-- The way back comes through the states of the way there, up to order. An option that is switched
off may leave a constraint without its column, but after it come options only. -/
theorem clearsBackAll_of_clearsAll {steps : List ChangeStep} (distinct : state.Distinct)
    (grounded : state.Grounded) (fits : context.FitsAll change state steps)
    (counters : ∀ step ∈ steps, CountersAt step)
    (keeps : ∀ step ∈ steps, context.KeepsAt change step)
    (optionsLast : steps.Pairwise fun earlier later => earlier.IsOption → later.IsOption)
    (clears : context.ClearsAll change state steps) :
    context.ClearsBackAll change (replay state (context.forwardOf change steps)) steps := by
  induction steps generalizing state with
  | nil => trivial
  | cons step rest induction =>
      have ⟨stepCounters, restCounters⟩ := List.forall_mem_cons.mp counters
      have ⟨_, restKeeps⟩ := List.forall_mem_cons.mp keeps
      have ⟨stepLast, restLast⟩ := List.pairwise_cons.mp optionsLast
      have nextDistinct := distinct_step distinct fits.1 stepCounters
      rw [forwardOf_cons, Operation.replay_append]
      constructor
      · by_cases isOption : step.IsOption
        · exact clearsBackAll_of_options fun later member => stepLast later member isOption
        · have nextGrounded := grounded.replay (orderlyRun_forward_iff.mpr clears.1)
            (guarded_step stepCounters isOption)
          exact induction nextDistinct nextGrounded fits.2 restCounters restKeeps restLast clears.2
      · have restored := (restores_steps nextDistinct fits.2 restCounters restKeeps).replay_alike
        exact (clearsBack_step grounded fits.1 stepCounters).alike restored.symm

variable (context) (change) in
/-- On the way there and back all constraints come after their columns and go before them if and
only if every step clears the state in which its turn comes. Of a change that matches its table
the way there is enough. -/
theorem orderlyRun_forward_backward_iff (start : Blueprint) :
    (OrderlyRun start (context.forward change ++ context.backward change) ↔
      context.ClearsAll change start change.steps
        ∧ context.ClearsBackAll change (replay start (context.forward change)) change.steps)
      ∧ (start.Distinct → start.Grounded → context.FitsAll change start change.steps →
        (∀ step ∈ change.steps, CountersAt step) →
        (∀ step ∈ change.steps, context.KeepsAt change step) →
        (OrderlyRun start (context.forward change ++ context.backward change) ↔
          context.ClearsAll change start change.steps)) := by
  have exact : OrderlyRun start (context.forward change ++ context.backward change) ↔
      context.ClearsAll change start change.steps
        ∧ context.ClearsBackAll change (replay start (context.forward change)) change.steps := by
    rw [OrderlyRun, Operation.throughout_append, forward_eq, backward_eq]
    exact and_congr orderlyRun_forwardOf_iff orderlyRun_backwardOf_iff
  refine ⟨exact, fun distinct grounded fits counters keeps => ?_⟩
  rw [exact, forward_eq]
  exact and_iff_left_of_imp
    (clearsBackAll_of_clearsAll distinct grounded fits counters keeps change.optionsLast)

theorem postChange_orderly :
    postTable.Distinct ∧ postTable.Grounded
      ∧ postContext.FitsAll postChange postTable postChange.steps
      ∧ postContext.ClearsAll postChange postTable postChange.steps
      ∧ OrderlyRun postTable
        (postContext.forward postChange ++ postContext.backward postChange) := by
  have distinct : postTable.Distinct := by decide
  have grounded : postTable.Grounded := by decide +kernel
  have fits : postContext.FitsAll postChange postTable postChange.steps := by decide +kernel
  have counters : ∀ step ∈ postChange.steps, CountersAt step := by decide +kernel
  have keeps : ∀ step ∈ postChange.steps, postContext.KeepsAt postChange step := by decide +kernel
  have clears : postContext.ClearsAll postChange postTable postChange.steps := by decide +kernel
  have exact := postContext.orderlyRun_forward_backward_iff postChange postTable
  exact ⟨distinct, grounded, fits, clears,
    (exact.2 distinct grounded fits counters keeps).mpr clears⟩

/-! Posts lose their author, and with it an index over the author and the title. -/

def byline : Property :=
  .association { relation := .manyToOne, target := "User" }

def bylineIndex : DeclaredIndex where
  columns := ["author", "title"]

def bylineContext : Context :=
  .ofSettings {
    entities := [
      ("User", { name := "User" }),
      ("Post", {
        name := "Post"
        properties := [("author", byline), ("title", .scalar { typeName := "string" })]
        options := { indexes := [bylineIndex] } })] } {}

def bylineChange : EntityChange where
  entity := "Post"
  columns := [.removed "author" byline]
  indexes := [.removed bylineIndex]

def bylineTable : Blueprint where
  table := "posts"
  columns := [
    { name := "id", storage := .bigIncrements, modifiers := [.primary] },
    { name := "title", storage := .string, args := { length := some 255 } },
    { name := "author_id", storage := .unsignedBigInteger }]
  primaryKey := ["id"]
  foreignKeys := [
    { name := "posts_author_id_foreign", columns := ["author_id"], referencedTable := "users",
      referencedColumn := "id", onDelete := .restrict, onUpdate := .cascade }]
  indexes := [
    { name := "posts_author_id_index", columns := ["author_id"], unique := false },
    { name := "posts_author_id_title_index", columns := ["author_id", "title"], unique := false }]

/-- All that is removed is there, and every index over the column goes; but one of them goes after
the column, and comes back before it. -/
theorem bylineChange_not_orderly :
    bylineTable.Grounded
      ∧ (bylineContext.partsOf bylineChange "author" byline).Present bylineTable
      ∧ bylineContext.indexOf bylineChange bylineIndex ∈ bylineTable.indexes
      ∧ (∀ index ∈ bylineTable.indexes, "author_id" ∈ index.columns →
        index ∈ (bylineContext.partsOf bylineChange "author" byline).indexes
          ∨ index = bylineContext.indexOf bylineChange bylineIndex)
      ∧ ¬OrderlyRun bylineTable
        (bylineContext.forward bylineChange ++ bylineContext.backward bylineChange) := by
  decide +kernel

end Context

end Migration
