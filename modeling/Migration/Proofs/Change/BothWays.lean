import Mathlib.Data.List.Forall2
import Migration.Proofs.Change.RoundTrip
import Migration.Revision

namespace Migration

/-! No migration leads one way only. Whatever a delta is about, its operations are none in one
direction exactly if they are none in the other, so that what a change does can be undone, and a
change that does nothing is no migration. -/

/-! ## Lists of operations -/

namespace Parts

variable {parts old new : Parts}

theorem creating_eq_nil : parts.creating = [] ↔
    parts.columns = [] ∧ parts.foreignKeys = [] ∧ parts.indexes = [] := by
  simp [creating]

theorem dropping_eq_nil : parts.dropping = [] ↔
    parts.columns = [] ∧ parts.foreignKeys = [] ∧ parts.indexes = [] := by
  simp [dropping, and_comm, and_assoc]

/-- Nothing is done to get from one definition to another if there is no column to alter, and the
constraints stay as they are. This does not depend on the direction. -/
theorem reshaping_eq_nil : old.reshaping new = [] ↔
    (old.columns = [] ∧ new.columns = [])
      ∧ (∀ foreignKey, foreignKey ∈ old.foreignKeys ↔ foreignKey ∈ new.foreignKeys)
      ∧ ∀ index, index ∈ old.indexes ↔ index ∈ new.indexes := by
  have stale : new.columns = [] → (Operation.staleColumns old new = [] ↔ old.columns = []) := by
    intro columnless
    simp [Operation.staleColumns, columnless]
  constructor
  · intro nothing
    simp only [reshaping, List.append_eq_nil_iff, List.map_eq_nil_iff, List.filter_reverse,
      List.reverse_eq_nil_iff] at nothing
    rcases nothing with
      ⟨⟨⟨⟨⟨oldIndexes, oldKeys⟩, oldColumns⟩, newColumns⟩, newKeys⟩, newIndexes⟩
    simp only [List.filter_eq_nil_iff, decide_not, Bool.not_eq_true', decide_eq_false_iff_not,
      not_not] at oldIndexes oldKeys newKeys newIndexes
    exact ⟨⟨(stale newColumns).mp oldColumns, newColumns⟩,
      fun foreignKey => ⟨oldKeys foreignKey, newKeys foreignKey⟩,
      fun index => ⟨oldIndexes index, newIndexes index⟩⟩
  · rintro ⟨⟨oldColumns, newColumns⟩, foreignKeys, indexes⟩
    simp [reshaping, oldColumns, newColumns, foreignKeys, indexes]

end Parts

namespace Context

theorem droppingKey_eq_nil {column : Option Column} {key : List String} :
    droppingKey column key = [] ↔ column = none ∧ key = [] := by
  cases column <;> cases key <;> simp [droppingKey]

theorem addingKey_eq_nil {column : Option Column} {key : List String} :
    addingKey column key = [] ↔ column = none ∧ key = [] := by
  cases column <;> cases key <;> simp [addingKey]

theorem renamedColumns_ne_nil (context : Context) (entity table source target : String)
    (definition : Option Property) :
    context.renamedColumns entity table source target definition ≠ [] := by
  unfold renamedColumns
  extract_lets pairs
  split
  case isTrue => exact List.cons_ne_nil _ _
  case isFalse columns => simpa using columns

end Context

/-! ## Groups -/

/-- What the group does it undoes, and it undoes nothing else. -/
def Group.IsTwoWay (group : Group) : Prop :=
  group.forward = [] ↔ group.backward = []

namespace Group

variable {group : Group}

theorem IsTwoWay.undone (twoWay : group.IsTwoWay) : group.undone.IsTwoWay :=
  twoWay.symm

theorem isTwoWay_of_ne_nil (forward : group.forward ≠ []) (backward : group.backward ≠ []) :
    group.IsTwoWay :=
  iff_of_false forward backward

theorem isTwoWay_creating (parts : Parts) : (creating parts).IsTwoWay :=
  Parts.creating_eq_nil.trans Parts.dropping_eq_nil.symm

theorem isTwoWay_reshaping (old new : Parts) : (reshaping old new).IsTwoWay := by
  rw [IsTwoWay, reshaping, Parts.reshaping_eq_nil, Parts.reshaping_eq_nil]
  simp only [and_comm (a := old.columns = []), iff_comm (a := _ ∈ old.foreignKeys),
    iff_comm (a := _ ∈ old.indexes)]

theorem isTwoWay_toggle (enabled : Bool) (on off : Operation) :
    (toggle enabled on off).IsTwoWay := by
  cases enabled <;> exact isTwoWay_of_ne_nil (by simp [toggle]) (by simp [toggle])

theorem isTwoWay_addingIndex (index : Index) : (addingIndex index).IsTwoWay :=
  isTwoWay_of_ne_nil (by simp [addingIndex]) (by simp [addingIndex])

/-- Neither list is empty once a column is renamed in it. -/
theorem isTwoWay_renaming {pairs : List (String × String)} (some : pairs ≠ [])
    (forward backward : List Operation) :
    IsTwoWay ⟨pairs.map (fun pair => .renameColumn pair.1 pair.2) ++ forward,
      backward ++ pairs.reverse.map fun pair => .renameColumn pair.2 pair.1⟩ :=
  isTwoWay_of_ne_nil (by simp [some]) (by simp [some])

/-- The key is dropped on one way if and only if it is created on the other. -/
theorem isTwoWay_rebuilding (old new : Option Column) (oldKey newKey : List String) :
    IsTwoWay ⟨Context.droppingKey old oldKey ++ Context.addingKey new newKey,
      Context.droppingKey new newKey ++ Context.addingKey old oldKey⟩ := by
  rw [IsTwoWay, List.append_eq_nil_iff, List.append_eq_nil_iff, Context.droppingKey_eq_nil,
    Context.droppingKey_eq_nil, Context.addingKey_eq_nil, Context.addingKey_eq_nil, and_comm]

end Group

namespace Context

variable {context : Context} {change : EntityChange}

theorem isTwoWay_property (property : PropertyChange) :
    (context.stepGroup change (.property property)).IsTwoWay := by
  cases property with
  | added name current => exact Group.isTwoWay_creating _
  | removed name previous => exact (Group.isTwoWay_creating _).undone
  | modified name previous current =>
      rcases context.stepGroup_modified_cases change name previous current with
        ⟨old, new, rfl, after⟩ | ⟨_, idle⟩
      · rw [stepGroup_modified after]
        exact Group.isTwoWay_reshaping _ _
      · rw [idle]
        exact Iff.rfl
  | renamed source target previous current =>
      have renames : context.pairsOf change source target previous current ≠ [] :=
        context.renamedColumns_ne_nil _ _ _ _ _
      rcases renamed_cases previous current with ⟨old, new, rfl, rfl, differ⟩ | same
      · rw [stepGroup_reshaping_renamed differ]
        exact Group.isTwoWay_renaming renames _ _
      · have plain := Group.isTwoWay_renaming renames [] []
        rw [List.append_nil, List.nil_append] at plain
        rwa [stepGroup_renamed same]

theorem isTwoWay_step (step : ChangeStep) : (context.stepGroup change step).IsTwoWay := by
  cases step with
  | key transition =>
      by_cases counters : transition.source.IsCounter ∧ transition.target.IsCounter
      · rw [stepGroup_counters counters.1 counters.2]
        exact Group.isTwoWay_reshaping _ _
      · rw [stepGroup_rebuilding counters]
        exact Group.isTwoWay_rebuilding _ _ _ _
  | property property => exact isTwoWay_property property
  | index index =>
      cases index with
      | added index => exact Group.isTwoWay_addingIndex _
      | removed index => exact (Group.isTwoWay_addingIndex _).undone
  | timestamps enabled => exact Group.isTwoWay_toggle _ _ _
  | softDelete enabled => exact Group.isTwoWay_toggle _ _ _

theorem isTwoWay_of_mem_groups {group : Group} (member : group ∈ context.groups change) :
    group.IsTwoWay := by
  rw [groups_eq] at member
  rcases List.mem_map.mp member with ⟨step, _, rfl⟩
  exact isTwoWay_step step

/-! ## Changes -/

theorem delta?_eq_none_iff : context.delta? change = none ↔
    ∀ group ∈ context.groups change, group.forward = [] ∧ group.backward = [] := by
  unfold delta?
  dsimp only
  split
  case isTrue idle => simpa [Group.isEmpty] using idle
  case isFalse active => simpa [Group.isEmpty] using active

/-- As the groups are two-way, it is enough to look in one direction. -/
theorem delta?_eq_none_iff_forward : context.delta? change = none ↔ context.forward change = [] := by
  rw [delta?_eq_none_iff, forward_eq, forwardOf, List.flatMap_eq_nil_iff, groups_eq,
    List.forall_mem_map]
  exact forall₂_congr fun step _ =>
    and_iff_left_of_imp (@isTwoWay_step context change step).mp

theorem delta?_eq_none_iff_backward :
    context.delta? change = none ↔ context.backward change = [] := by
  rw [delta?_eq_none_iff, backward_eq, backwardOf, List.flatMap_eq_nil_iff, groups_eq,
    List.forall_mem_map]
  simp only [List.mem_reverse]
  exact forall₂_congr fun step _ =>
    and_iff_right_of_imp (@isTwoWay_step context change step).mpr

/-- Without a transition of an option the steps are those of the columns and the indexes. -/
theorem steps_of_unchanged_options (options : change.options.anyChange = false) :
    change.steps = change.columns.map .property ++ change.indexes.map .index := by
  simp only [OptionChanges.anyChange, Bool.or_eq_false_iff] at options
  rcases options with ⟨⟨timestamps, softDelete⟩, key⟩
  have still {α : Type} [DecidableEq α] {transition : Option (Transition α)}
      (same : transition.any (·.isChange) = false) : transition.filter (·.isChange) = none := by
    simpa [Option.any_eq_false] using same
  simp [EntityChange.steps, still timestamps, still softDelete, still key]

theorem steps_of_isEmpty (empty : change.isEmpty = true) : change.steps = [] := by
  simp only [EntityChange.isEmpty, Bool.and_eq_true, Bool.not_eq_true', List.isEmpty_iff] at empty
  rcases empty with ⟨⟨columns, indexes⟩, options⟩
  rw [steps_of_unchanged_options options, columns, indexes]
  rfl

/-- Each step of the change has its group, and those of all steps make up the delta. The operations
of a group are none on the way forward exactly if they are none on the way back, and those of the
whole change are some on both ways, or there is no delta. -/
structure LeadsBothWays (context : Context) (change : EntityChange) : Prop where
  steps : context.groups change = change.steps.map (context.stepGroup change)
  whole : ∀ delta ∈ context.delta? change,
    delta.forward = (context.groups change).flatMap (·.forward)
      ∧ delta.backward = (context.groups change).reverse.flatMap (·.backward)
  groups : ∀ group ∈ context.groups change, group.forward = [] ↔ group.backward = []
  idle : context.delta? change = none ↔
    ∀ group ∈ context.groups change, group.forward = [] ∧ group.backward = []
  active : ∀ delta ∈ context.delta? change, delta.forward ≠ [] ∧ delta.backward ≠ []
  empty : change.isEmpty = true → context.delta? change = none

theorem leadsBothWays (context : Context) (change : EntityChange) :
    context.LeadsBothWays change where
  steps := context.groups_eq change
  whole delta made := by
    rw [← context.forward_of_delta? change made, ← context.backward_of_delta? change made,
      forward_eq, backward_eq, forwardOf, backwardOf, groups_eq, ← List.map_reverse,
      List.flatMap_map, List.flatMap_map]
    exact ⟨rfl, rfl⟩
  groups _ member := isTwoWay_of_mem_groups member
  idle := delta?_eq_none_iff
  active delta made := by
    have active : context.delta? change ≠ none := by
      rw [made]
      exact Option.some_ne_none delta
    rw [← context.forward_of_delta? change made, ← context.backward_of_delta? change made]
    exact ⟨mt delta?_eq_none_iff_forward.mpr active, mt delta?_eq_none_iff_backward.mpr active⟩
  empty empty := by
    rw [delta?_eq_none_iff_forward, forward_eq, steps_of_isEmpty empty]
    rfl

/-! ## Revisions -/

/-- The revision takes the table of the changed entity to its new version. -/
structure Updates (context : Context) (change : EntityChange) (revision : Revision) : Prop where
  entity : revision.entity = change.entity
  kind : revision.kind = .update
  delta : context.delta? change = some revision.delta

/-- The revision drops the table of the removed entity. -/
structure Drops (context : Context) (removed : Entity) (revision : Revision) : Prop where
  entity : revision.entity = removed.name
  kind : revision.kind = .drop
  delta : context.dropDelta removed = revision.delta

/-- One revision after the other for the changes that have a delta, and then for the removed
entities. Each of them leads both ways. -/
structure Covers (context : Context) (set : ChangeSet) (revisions : List Revision) : Prop where
  inOrder : ∃ updates drops, revisions = updates ++ drops
    ∧ List.Forall₂ context.Updates (set.changes.filter fun change => (context.delta? change).isSome)
      updates
    ∧ List.Forall₂ context.Drops set.removed drops
  bothWays : ∀ revision ∈ revisions,
    revision.delta.forward ≠ [] ∧ revision.delta.backward ≠ []

/-- The revision for an entity, at its place among all. -/
def revisionAt (base : Timestamp) (entry : (String × RevisionKind × Delta) × Nat) : Revision where
  entity := entry.1.1
  kind := entry.1.2.1
  delta := entry.1.2.2
  timestamp := base.plusSeconds entry.2

variable (context) (base : Timestamp)

theorem updates_updates (changes : List EntityChange) (place : Nat) :
    List.Forall₂ context.Updates (changes.filter fun change => (context.delta? change).isSome)
      (((context.updates changes).zipIdx place).map (revisionAt base)) := by
  induction changes generalizing place with
  | nil => exact .nil
  | cons change rest induction =>
      rw [updates]
      cases made : context.delta? change with
      | none =>
          rw [List.filter_cons_of_neg (by simp [made]), List.filterMap_cons_none (by simp [made])]
          exact induction place
      | some delta =>
          rw [List.filter_cons_of_pos (by simp [made]),
            List.filterMap_cons_some (b := (change.entity, .update, delta)) (by simp [made]),
            List.zipIdx_cons, List.map_cons]
          exact .cons ⟨rfl, rfl, made⟩ (induction (place + 1))

theorem drops_drops (removed : List Entity) (place : Nat) :
    List.Forall₂ context.Drops removed
      (((context.drops removed).zipIdx place).map (revisionAt base)) := by
  induction removed generalizing place with
  | nil => exact .nil
  | cons entity rest induction =>
      rw [drops, List.map_cons, List.zipIdx_cons, List.map_cons]
      exact .cons ⟨rfl, rfl, rfl⟩ (induction (place + 1))

theorem exists_of_forall₂ {α β : Type} {related : α → β → Prop} {lefts : List α} {rights : List β}
    (all : List.Forall₂ related lefts rights) {right : β} (member : right ∈ rights) :
    ∃ left, related left right := by
  induction all with
  | nil => contradiction
  | cons first _ induction =>
      rcases List.mem_cons.mp member with rfl | later
      · exact ⟨_, first⟩
      · exact induction later

theorem covers_revisions (set : ChangeSet) : context.Covers set (context.revisions set base) := by
  have updated := context.updates_updates base set.changes 0
  have dropped := context.drops_drops base set.removed (context.updates set.changes).length
  have split : context.revisions set base =
      ((context.updates set.changes).zipIdx 0).map (revisionAt base)
        ++ ((context.drops set.removed).zipIdx (context.updates set.changes).length).map
          (revisionAt base) := by
    change (context.updates set.changes ++ context.drops set.removed).zipIdx.map
      (revisionAt base) = _
    rw [List.zipIdx_append, List.map_append, Nat.zero_add]
  refine ⟨⟨_, _, split, updated, dropped⟩, fun revision member => ?_⟩
  rw [split] at member
  rcases List.mem_append.mp member with isUpdate | isDrop
  · rcases exists_of_forall₂ updated isUpdate with ⟨change, updates⟩
    exact (context.leadsBothWays change).active _ updates.delta
  · rcases exists_of_forall₂ dropped isDrop with ⟨removed, drops⟩
    rw [← drops.delta]
    exact ⟨List.cons_ne_nil _ _, List.cons_ne_nil _ _⟩

/-- Whatever a change is about, it does something exactly if it can be undone. A set of changes
comes to one migration for every change that does something and one for every removed entity, in
their order. -/
theorem leadsBothWays_and_covers_revisions (context : Context) :
    (∀ change, context.LeadsBothWays change)
      ∧ ∀ set base, context.Covers set (context.revisions set base) :=
  ⟨context.leadsBothWays, fun set base => context.covers_revisions base set⟩

end Context

end Migration
