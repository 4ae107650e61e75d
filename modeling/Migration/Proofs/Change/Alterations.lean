import Migration.Proofs.Change.Agreement
import Migration.Proofs.Change.RoundTrip

namespace Migration

/-! Which columns a modified property alters. It alters every column of its new definition, whether
or not the old one had it, so what it alters is there exactly if both definitions have columns of
the same names. -/

namespace Operation

/-- What is altered is there. -/
def AltersPresent (blueprint : Blueprint) : Operation → Prop
  | .alterColumn column => blueprint.hasColumn column.name = true
  | _ => True

instance (blueprint : Blueprint) (operation : Operation) :
    Decidable (operation.AltersPresent blueprint) :=
  match operation with
  | .alterColumn column => inferInstanceAs (Decidable (blueprint.hasColumn column.name = true))
  | .createTable _ | .dropTable _ | .addColumn _ | .dropColumn _ | .renameColumn _ _
  | .addForeignKey _ | .dropForeignKey _ _ | .addIndex _ | .dropIndex _ _ _ | .addTimestamps
  | .dropTimestamps | .addSoftDeletes | .dropSoftDeletes | .dropPrimary _ | .addPrimary _ =>
      .isTrue trivial

section

variable {state : Blueprint} {old new : Parts}

theorem altersPresent_map {α : Type} {operation : α → Operation} {values : List α}
    (always : ∀ value state, (operation value).AltersPresent state) :
    Throughout AltersPresent state (values.map operation) := by
  apply throughout_of_forall
  intro given member state
  rcases List.mem_map.mp member with ⟨value, _, rfl⟩
  exact always value state

/-- To alter a column that is there changes no name. -/
theorem altersPresent_alterColumns {columns : List Column} :
    Throughout AltersPresent state (columns.map .alterColumn) ↔
      ByKey.keys Column.name columns ⊆ ByKey.keys Column.name state.columns := by
  induction columns generalizing state with
  | nil => simp [Throughout]
  | cons column rest induction =>
      rw [List.map_cons, Throughout, induction, AltersPresent, Blueprint.hasColumn_iff,
        ByKey.keys_cons, List.cons_subset]
      refine and_congr_right fun present => ?_
      have kept : ByKey.keys Column.name (state.alterColumn column).columns =
          ByKey.keys Column.name state.columns :=
        (Blueprint.keys_replaceOrAppend column state.columns).trans (if_pos present)
      rw [apply, kept]

/-- What goes with the old columns is none of the new ones. -/
theorem altersPresent_reshaping : Throughout AltersPresent state (old.reshaping new) ↔
    ByKey.keys Column.name new.columns ⊆ ByKey.keys Column.name state.columns := by
  have rest : ByKey.keys Column.name new.columns ⊆ ByKey.keys Column.name
        (ByKey.drop Column.name state.columns (ByKey.keys Column.name (staleColumns old new))) ↔
      ByKey.keys Column.name new.columns ⊆ ByKey.keys Column.name state.columns := by
    refine forall₂_congr fun name isNew => ?_
    rw [ByKey.mem_keys_drop, mem_keys_staleColumns]
    simp [isNew]
  simp only [Parts.reshaping, throughout_append, replay_append, replay_dropIndexes,
    replay_dropForeignKeys, replay_dropColumns, List.filter_reverse, ByKey.drop_keys_reverse]
  constructor
  · rintro ⟨⟨⟨_, altered⟩, _⟩, _⟩
    exact rest.mp (altersPresent_alterColumns.mp altered)
  · intro present
    refine ⟨⟨⟨⟨⟨altersPresent_map ?_, altersPresent_map ?_⟩, altersPresent_map ?_⟩, ?altered⟩,
      altersPresent_map ?_⟩, altersPresent_map ?_⟩
    case altered => exact altersPresent_alterColumns.mpr (rest.mpr present)
    all_goals exact fun _ _ => trivial

theorem mem_keys_reshaping {name : String} :
    name ∈ ByKey.keys Column.name (replay state (old.reshaping new)).columns ↔
      name ∈ ByKey.keys Column.name new.columns
        ∨ name ∈ ByKey.keys Column.name state.columns
          ∧ name ∉ ByKey.keys Column.name old.columns := by
  rw [replay_reshaping, Blueprint.mem_keys_alterAll, ByKey.mem_keys_drop, mem_keys_staleColumns]
  tauto

/-- There and back, what is altered is there exactly if the new columns have no other names than
the table has, and the old ones no other than the new. -/
theorem altersPresent_there_and_back :
    Throughout AltersPresent state (old.reshaping new ++ new.reshaping old) ↔
      ByKey.keys Column.name new.columns ⊆ ByKey.keys Column.name state.columns
        ∧ ByKey.keys Column.name old.columns ⊆ ByKey.keys Column.name new.columns := by
  rw [throughout_append, altersPresent_reshaping, altersPresent_reshaping]
  refine and_congr_right fun _ => forall₂_congr fun name isOld => ?_
  rw [mem_keys_reshaping]
  simp [isOld]

end

end Operation

namespace Context

variable {context : Context} {change : EntityChange} {state : Blueprint} {name : String}
  {old new : Property} {current : Option Property}

/-- The operations of a modification alter what is there, and add the columns that only one of the
two definitions has. -/
structure AltersInPlace (context : Context) (change : EntityChange) (state : Blueprint)
    (old new : Parts) : Prop where
  altered : Operation.Throughout Operation.AltersPresent state
    (context.forward change ++ context.backward change)
  added : ∀ column ∈ new.columns, column.name ∉ ByKey.keys Column.name old.columns →
    .addColumn column ∈ context.forward change
  addedBack : ∀ column ∈ old.columns, column.name ∉ ByKey.keys Column.name new.columns →
    .addColumn column ∈ context.backward change

theorem forward_backward_modified
    (only : change.steps = [.property (.modified name (some old) current)])
    (after : new ∈ context.definitionAfter change name current) :
    context.forward change =
        (context.partsOf change name old).reshaping (context.partsOf change name new)
      ∧ context.backward change =
        (context.partsOf change name new).reshaping (context.partsOf change name old) := by
  rw [forward_eq, backward_eq, only, forwardOf_cons, backwardOf_cons, stepGroup_modified after]
  exact ⟨List.append_nil _, rfl⟩

/-- The old columns are there, and of the new ones only those that are called like an old one. -/
theorem Fits.keys_subset_iff (after : new ∈ context.definitionAfter change name current)
    (fits : context.Fits change state (.property (.modified name (some old) current))) :
    ByKey.keys Column.name (context.partsOf change name new).columns ⊆
        ByKey.keys Column.name state.columns ↔
      ByKey.keys Column.name (context.partsOf change name new).columns ⊆
        ByKey.keys Column.name (context.partsOf change name old).columns := by
  have ⟨present, free⟩ := fits old rfl new after
  constructor
  · intro within column isNew
    by_contra notOld
    rcases (ByKey.mem_keys _).mp isNew with ⟨added, isAdded, rfl⟩
    have vacant := free.columns added isAdded
    rw [Operation.replay_dropping] at vacant
    have absent := (ByKey.find?_eq_none Column.name).mp vacant
    exact absent ((ByKey.mem_keys_drop _).mpr ⟨within isNew, notOld⟩)
  · intro within column isNew
    rcases (ByKey.mem_keys _).mp (within isNew) with ⟨kept, isKept, rfl⟩
    exact ByKey.mem_keys_of_mem _ (present.columns kept isKept)

theorem addColumn_not_mem_reshaping (old new : Parts) (column : Column) :
    .addColumn column ∉ old.reshaping new := by
  simp [Parts.reshaping, Index.dropping, ForeignKey.dropping]

/-- A property is modified, and nothing else. No column is added by that, so what is altered is
there, on the way forward and on the way back, exactly if both definitions have columns of the same
names. -/
theorem altersInPlace_iff
    (only : change.steps = [.property (.modified name (some old) current)])
    (after : new ∈ context.definitionAfter change name current)
    (fits : context.Fits change state (.property (.modified name (some old) current))) :
    (context.AltersInPlace change state (context.partsOf change name old)
        (context.partsOf change name new) ↔
      ∀ column, column ∈ ByKey.keys Column.name (context.partsOf change name old).columns ↔
        column ∈ ByKey.keys Column.name (context.partsOf change name new).columns)
      ∧ ∀ column, .addColumn column ∉ context.forward change ++ context.backward change := by
  have ⟨forward, backward⟩ := forward_backward_modified only after
  have run : Operation.Throughout Operation.AltersPresent state
      (context.forward change ++ context.backward change) ↔
        ∀ column, column ∈ ByKey.keys Column.name (context.partsOf change name old).columns ↔
          column ∈ ByKey.keys Column.name (context.partsOf change name new).columns := by
    rw [forward, backward, Operation.altersPresent_there_and_back,
      Fits.keys_subset_iff after fits]
    exact ⟨fun ⟨fromNew, fromOld⟩ column => ⟨@fromOld column, @fromNew column⟩,
      fun same => ⟨fun column => (same column).mpr, fun column => (same column).mp⟩⟩
  refine ⟨⟨fun alters => run.mp alters.altered, fun same => ⟨run.mpr same, ?_, ?_⟩⟩, ?_⟩
  · intro column isNew notOld
    exact absurd ((same _).mpr (ByKey.mem_keys_of_mem _ isNew)) notOld
  · intro column isOld notNew
    exact absurd ((same _).mp (ByKey.mem_keys_of_mem _ isOld)) notNew
  · intro column
    rw [forward, backward, List.mem_append, not_or]
    exact ⟨addColumn_not_mem_reshaping _ _ column, addColumn_not_mem_reshaping _ _ column⟩

/-! The author of a post is known by name. The name may be kept otherwise, or make way for the key
of a user, which is in a column of another name. -/

def signedPost : Entity :=
  authoredPost.withProperty "author" authorByName

def signedContext : Context :=
  .ofSettings { entities := [("User", { name := "User" }), ("Post", signedPost)] } {}

def authorChanging (current : Property) : EntityChange :=
  signedPost.changing none (.modified "author" (some authorByName) (some current))

/-- The same author, in a text of any length. -/
def authorByText : Property :=
  .scalar { typeName := "text" }

theorem signedPost_alters_in_place :
    (authorChanging authorByText).steps =
        [.property (.modified "author" (some authorByName) (some authorByText))]
      ∧ signedContext.Fits (authorChanging authorByText) (signedContext.build signedPost)
        (.property (.modified "author" (some authorByName) (some authorByText)))
      ∧ signedContext.AltersInPlace (authorChanging authorByText) (signedContext.build signedPost)
        (signedContext.partsOf (authorChanging authorByText) "author" authorByName)
        (signedContext.partsOf (authorChanging authorByText) "author" authorByText) := by
  have only : (authorChanging authorByText).steps =
      [.property (.modified "author" (some authorByName) (some authorByText))] := rfl
  have fits : signedContext.Fits (authorChanging authorByText) (signedContext.build signedPost)
      (.property (.modified "author" (some authorByName) (some authorByText))) := by decide +kernel
  have old : ByKey.keys Column.name (signedContext.partsOf (authorChanging authorByText) "author"
      authorByName).columns = ["author"] := by decide +kernel
  have new : ByKey.keys Column.name (signedContext.partsOf (authorChanging authorByText) "author"
      authorByText).columns = ["author"] := by decide +kernel
  have verdict := altersInPlace_iff only rfl fits
  rw [old, new] at verdict
  exact ⟨only, fits, verdict.1.mpr fun _ => Iff.rfl⟩

/-- Nothing is there under the name `author_id` when that column is altered, and nothing under
`author` on the way back. -/
theorem signedPost_alters_missing :
    signedContext.Fits (authorChanging authorByKey) (signedContext.build signedPost)
        (.property (.modified "author" (some authorByName) (some authorByKey)))
      ∧ ¬signedContext.AltersInPlace (authorChanging authorByKey) (signedContext.build signedPost)
        (signedContext.partsOf (authorChanging authorByKey) "author" authorByName)
        (signedContext.partsOf (authorChanging authorByKey) "author" authorByKey) := by
  refine ⟨by decide +kernel, ?_⟩
  have missing : ¬Operation.Throughout Operation.AltersPresent (signedContext.build signedPost)
      (signedContext.forward (authorChanging authorByKey)
        ++ signedContext.backward (authorChanging authorByKey)) := by decide +kernel
  rintro ⟨altered, _, _⟩
  exact missing altered

end Context

end Migration
