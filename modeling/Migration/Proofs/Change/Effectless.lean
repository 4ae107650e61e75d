import Migration.Proofs.Change.BothWays

namespace Migration

/-! Changes without an effect. The definitions of a property before and after may differ and yet
come to the same columns and constraints. The constraints are left alone then, but the columns are
altered all the same, each to what it is. So there is no delta only where there is no column. -/

open Operation (replay)

/-- The same columns and constraints, in whatever order. -/
structure Parts.Agrees (left right : Parts) : Prop where
  columns : ∀ column, column ∈ left.columns ↔ column ∈ right.columns
  foreignKeys : ∀ foreignKey, foreignKey ∈ left.foreignKeys ↔ foreignKey ∈ right.foreignKeys
  indexes : ∀ index, index ∈ left.indexes ↔ index ∈ right.indexes

namespace Parts.Agrees

variable {left right : Parts}

theorem of_eq (same : left = right) : left.Agrees right := by
  subst same
  exact ⟨fun _ => Iff.rfl, fun _ => Iff.rfl, fun _ => Iff.rfl⟩

theorem symm (agrees : left.Agrees right) : right.Agrees left where
  columns column := (agrees.columns column).symm
  foreignKeys foreignKey := (agrees.foreignKeys foreignKey).symm
  indexes index := (agrees.indexes index).symm

/-- Between parts that agree nothing is dropped and nothing is created. -/
theorem reshaping_eq (agrees : left.Agrees right) :
    left.reshaping right = right.columns.map .alterColumn := by
  have stale : left.columns.reverse.filter
      (fun column => !right.columns.any (·.name = column.name)) = [] := by
    simp only [List.filter_eq_nil_iff, List.mem_reverse, Bool.not_eq_true', Bool.not_eq_false]
    intro column member
    exact List.any_eq_true.mpr ⟨column, (agrees.columns column).mp member, decide_eq_true rfl⟩
  have without {α : Type} [DecidableEq α] {values others : List α}
      (known : ∀ value, value ∈ values → value ∈ others) : values.filter (· ∉ others) = [] := by
    simpa [List.filter_eq_nil_iff] using known
  rw [reshaping, stale, without fun foreignKey => (agrees.foreignKeys foreignKey).mpr,
    without fun index => (agrees.indexes index).mpr, List.filter_reverse, List.filter_reverse,
    without fun foreignKey => (agrees.foreignKeys foreignKey).mp,
    without fun index => (agrees.indexes index).mp]
  simp

end Parts.Agrees

/-! ## Alterations that alter nothing -/

namespace Blueprint

/-- The column stands in the table as it is. -/
def Shows (blueprint : Blueprint) (column : Column) : Prop :=
  blueprint.column? column.name = some column

theorem alterColumn_eq_self {blueprint : Blueprint} {column : Column}
    (shows : blueprint.Shows column) : blueprint.alterColumn column = blueprint := by
  have same (columns : List Column) (first : columns.find? (·.name = column.name) = some column) :
      alterColumn.replaceOrAppend column columns = columns := by
    induction columns with
    | nil => contradiction
    | cons old rest induction =>
        rw [alterColumn.replaceOrAppend]
        split
        case isTrue same =>
          rw [List.find?_cons_of_pos (by simpa using same)] at first
          rw [Option.some.inj first]
        case isFalse differs =>
          rw [List.find?_cons_of_neg (by simpa using differs)] at first
          rw [induction first]
  rw [alterColumn, same _ shows]

end Blueprint

theorem Operation.replay_eq_self {state : Blueprint} {operations : List Operation}
    (idle : ∀ operation ∈ operations, operation.apply state = state) :
    replay state operations = state := by
  induction operations with
  | nil => rfl
  | cons operation rest induction =>
      have ⟨first, later⟩ := List.forall_mem_cons.mp idle
      rw [replay_cons, first, induction later]

namespace Context

variable (context : Context) (change : EntityChange)

/-- What a modified property consisted of and what it consists of, if both are known. -/
def versions? : PropertyChange → Option (Parts × Parts)
  | .modified name (some old) current =>
      (context.definitionAfter change name current).map fun new =>
        (context.partsOf change name old, context.partsOf change name new)
  | _ => none

/-- Properties are modified and nothing else is changed, and what they consist of stays the same,
as far as it is known. -/
structure WithoutEffect : Prop where
  modifies : ∀ record ∈ change.columns, ∃ name previous current,
    record = .modified name previous current
  indexes : change.indexes = []
  options : change.options.anyChange = false
  agrees : ∀ record ∈ change.columns, ∀ versions ∈ context.versions? change record,
    versions.1.Agrees versions.2

/-- The blueprint has the columns that the modified properties consist of. -/
def ShowsVersions (state : Blueprint) : Prop :=
  ∀ record ∈ change.columns, ∀ versions ∈ context.versions? change record,
    ∀ column ∈ versions.2.columns, state.Shows column

variable {context change}

theorem stepGroup_of_agrees {name : String} {previous current : Option Property}
    (agrees : ∀ versions ∈ context.versions? change (.modified name previous current),
      versions.1.Agrees versions.2) :
    context.stepGroup change (.property (.modified name previous current)) =
      let versions := (context.versions? change (.modified name previous current)).toList
      ⟨versions.flatMap fun versions => versions.2.columns.map .alterColumn,
        versions.flatMap fun versions => versions.1.columns.map .alterColumn⟩ := by
  rcases context.stepGroup_modified_cases change name previous current with
    ⟨old, new, rfl, after⟩ | ⟨unknown, idle⟩
  · have known : context.versions? change (.modified name (some old) current) =
        some (context.partsOf change name old, context.partsOf change name new) :=
      congrArg (Option.map _) after
    have same := agrees _ known
    rw [stepGroup_modified after, known, Group.reshaping, same.reshaping_eq, same.symm.reshaping_eq]
    simp
  · have none : context.versions? change (.modified name previous current) = none := by
      cases previous with
      | none => rfl
      | some old => exact congrArg (Option.map _) (unknown old rfl)
    rw [idle, none]
    rfl

namespace WithoutEffect

variable (still : context.WithoutEffect change)

include still

theorem steps_eq : change.steps = change.columns.map .property := by
  rw [steps_of_unchanged_options still.options, still.indexes]
  exact List.append_nil _

/-- The columns of the properties as they are now are altered, and that is all. -/
theorem forward_eq : context.forward change = change.columns.flatMap fun record =>
    (context.versions? change record).toList.flatMap fun versions =>
      versions.2.columns.map .alterColumn := by
  rw [Context.forward_eq, still.steps_eq, forwardOf, List.flatMap_map]
  apply List.flatMap_congr
  intro record member
  rcases still.modifies record member with ⟨name, previous, current, rfl⟩
  rw [stepGroup_of_agrees (still.agrees _ member)]

theorem backward_eq : context.backward change = change.columns.reverse.flatMap fun record =>
    (context.versions? change record).toList.flatMap fun versions =>
      versions.1.columns.map .alterColumn := by
  rw [Context.backward_eq, still.steps_eq, backwardOf, ← List.map_reverse, List.flatMap_map]
  apply List.flatMap_congr
  intro record member
  rw [List.mem_reverse] at member
  rcases still.modifies record member with ⟨name, previous, current, rfl⟩
  rw [stepGroup_of_agrees (still.agrees _ member)]

theorem alters_of_mem {operation : Operation}
    (member : operation ∈ context.forward change ∨ operation ∈ context.backward change) :
    ∃ record ∈ change.columns, ∃ versions ∈ context.versions? change record,
      ∃ column ∈ versions.2.columns, operation = .alterColumn column := by
  simp only [still.forward_eq, still.backward_eq, List.mem_flatMap, List.mem_reverse,
    Option.mem_toList, List.mem_map] at member
  rcases member with ⟨record, isRecord, versions, isKnown, column, isColumn, rfl⟩ |
    ⟨record, isRecord, versions, isKnown, column, isColumn, rfl⟩
  · exact ⟨record, isRecord, versions, isKnown, column, isColumn, rfl⟩
  · have now := ((still.agrees record isRecord versions isKnown).columns column).mp isColumn
    exact ⟨record, isRecord, versions, isKnown, column, now, rfl⟩

theorem apply_eq_self {state : Blueprint} (shows : context.ShowsVersions change state)
    {operation : Operation}
    (member : operation ∈ context.forward change ∨ operation ∈ context.backward change) :
    operation.apply state = state := by
  rcases still.alters_of_mem member with
    ⟨record, isRecord, versions, isKnown, column, isColumn, rfl⟩
  exact Blueprint.alterColumn_eq_self (shows record isRecord versions isKnown column isColumn)

end WithoutEffect

/-- A change without an effect is no migration if and only if the properties that it modifies have
no columns. A migration that is made all the same leaves every table that fits as it is, on the way
forward and on the way back. -/
theorem delta?_eq_none_iff_columnless (still : context.WithoutEffect change) :
    (context.delta? change = none ↔
        ∀ record ∈ change.columns, ∀ versions ∈ context.versions? change record,
          versions.2.columns = [])
      ∧ ∀ state, context.ShowsVersions change state →
        replay state (context.forward change) = state
          ∧ replay state (context.backward change) = state := by
  constructor
  · rw [delta?_eq_none_iff_forward, still.forward_eq, List.flatMap_eq_nil_iff]
    refine forall₂_congr fun record _ => ?_
    simp [List.flatMap_eq_nil_iff]
  · intro state shows
    exact ⟨Operation.replay_eq_self fun _ member => still.apply_eq_self shows (.inl member),
      Operation.replay_eq_self fun _ member => still.apply_eq_self shows (.inr member)⟩

/-! The views of a post are counted in whole numbers, which have several names. Its cover is an
image, and that is no column. -/

def viewedPost : Entity where
  name := "Post"
  properties := [
    ("views", .scalar { typeName := "integer" }),
    ("cover", .scalar { typeName := "image" })]

def viewedContext : Context :=
  .ofSettings { entities := [("Post", viewedPost)] } {}

def viewsChange : EntityChange where
  entity := "Post"
  columns := [.modified "views" (some (.scalar { typeName := "int" })) none]

/-- The cover was any file before. Of the summary it is not known what became of it. -/
def coverChange : EntityChange where
  entity := "Post"
  columns := [
    .modified "cover" (some (.scalar { typeName := "file" })) none,
    .modified "summary" (some (.scalar { typeName := "text" })) none]
  options := { timestamps := some ⟨true, true⟩ }

theorem withoutEffect_viewsChange : viewedContext.WithoutEffect viewsChange where
  modifies record member := by
    rcases List.mem_singleton.mp member with rfl
    exact ⟨_, _, _, rfl⟩
  indexes := rfl
  options := rfl
  agrees record member versions known := by
    rcases List.mem_singleton.mp member with rfl
    rcases Option.mem_some_iff.mp known with rfl
    exact .of_eq (by decide +kernel)

theorem withoutEffect_coverChange : viewedContext.WithoutEffect coverChange where
  modifies record member := by
    rcases List.mem_pair.mp member with rfl | rfl <;> exact ⟨_, _, _, rfl⟩
  indexes := rfl
  options := rfl
  agrees record member versions known := by
    rcases List.mem_pair.mp member with rfl | rfl
    · rcases Option.mem_some_iff.mp known with rfl
      exact .of_eq (by decide +kernel)
    · contradiction

/-- The change of the cover is none, and that of the views does nothing. -/
theorem viewedContext_changes_without_effect :
    viewedContext.WithoutEffect coverChange ∧ viewedContext.delta? coverChange = none
      ∧ viewedContext.WithoutEffect viewsChange
      ∧ replay (viewedContext.build viewedPost) (viewedContext.forward viewsChange) =
        viewedContext.build viewedPost := by
  have columnless : ∀ record ∈ coverChange.columns,
      ∀ versions ∈ viewedContext.versions? coverChange record, versions.2.columns = [] := by
    decide +kernel
  have shows : viewedContext.ShowsVersions viewsChange (viewedContext.build viewedPost) := by
    unfold ShowsVersions Blueprint.Shows
    decide +kernel
  exact ⟨withoutEffect_coverChange,
    (delta?_eq_none_iff_columnless withoutEffect_coverChange).1.mpr columnless,
    withoutEffect_viewsChange,
    ((delta?_eq_none_iff_columnless withoutEffect_viewsChange).2 _ shows).1⟩

/-- There is a migration for it all the same. -/
theorem viewsChange_is_migration :
    viewedContext.WithoutEffect viewsChange
      ∧ viewedContext.delta? viewsChange = some
        { table := "posts"
          forward := [.alterColumn { name := "views", storage := .integer }]
          backward := [.alterColumn { name := "views", storage := .integer }] } :=
  ⟨withoutEffect_viewsChange, by decide +kernel⟩

end Context

end Migration
