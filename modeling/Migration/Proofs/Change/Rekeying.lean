import Migration.Proofs.Blueprint.PrimaryKey
import Migration.Proofs.Change.RoundTrip

namespace Migration

/-! A change of the key alone, made and taken back. Where one counter gives way to another, the
generated column is altered in place and altered back. Every other key is dropped and built anew,
and its generated column comes back without the marker that it had. -/

open Operation (replay)

/-- Nothing but the key changes. -/
def EntityChange.rekeying (name : String) (table : Option String)
    (transition : Transition KeyStrategy) : EntityChange where
  entity := name
  table := table
  options := { key := some transition }

theorem EntityChange.steps_rekeying (name : String) (table : Option String)
    {source target : KeyStrategy} (changes : source ≠ target) :
    (rekeying name table ⟨source, target⟩).steps = [.key ⟨source, target⟩] := by
  have isChange : Transition.isChange ⟨source, target⟩ = true := decide_eq_true changes
  simp [steps, rekeying, isChange]

namespace Context

variable (context : Context)

/-! ## Dropping a key and adding another -/

theorem replay_droppingKey (state : Blueprint) (column : Option Column) (key : List String) :
    replay state (droppingKey column key) =
      { state with
        columns := ByKey.drop Column.name state.columns (ByKey.keys Column.name column.toList)
        primaryKey := if key.isEmpty then state.primaryKey else [] } := by
  rw [droppingKey, Operation.replay_append, Operation.replay_dropColumns]
  split <;> rfl

theorem replay_addingKey (state : Blueprint) (column : Option Column) (key : List String) :
    replay state (addingKey column key) =
      let added := ByKey.addAll Column.name state.columns (column.toList.map (·.withoutPrimary))
      { state with
        columns := if 1 < key.length then added.map (·.withoutPrimary) else added
        primaryKey := if key.isEmpty then state.primaryKey else key } := by
  have columns : column.toList.map (fun column => Operation.addColumn column.withoutPrimary) =
      (column.toList.map (·.withoutPrimary)).map .addColumn := by
    rw [List.map_map]
    rfl
  rw [addingKey, columns, Operation.replay_append, Operation.replay_addColumns]
  cases key <;> rfl

/-- A key of one column that is added and dropped again takes a column of that name with it. -/
theorem replay_addingKey_droppingKey (state : Blueprint) (column : Column) (name : String) :
    replay (replay state (addingKey (some column) [name])) (droppingKey (some column) [name]) =
      { state with
        columns := ByKey.drop Column.name state.columns [column.name]
        primaryKey := [] } := by
  have columns := ByKey.drop_addAll Column.name state.columns [column.withoutPrimary]
  rw [replay_droppingKey, replay_addingKey]
  exact congrArg (fun columns => { state with columns := columns, primaryKey := [] }) columns

section

variable {state : Blueprint} {column : Option Column} {key : List String} {name : String}

theorem mem_keys_droppingKey :
    name ∈ ByKey.keys Column.name (replay state (droppingKey column key)).columns ↔
      name ∈ ByKey.keys Column.name state.columns
        ∧ name ∉ ByKey.keys Column.name column.toList := by
  rw [replay_droppingKey]
  exact ByKey.mem_keys_drop _

theorem mem_keys_addingKey :
    name ∈ ByKey.keys Column.name (replay state (addingKey column key)).columns ↔
      name ∈ ByKey.keys Column.name state.columns
        ∨ name ∈ ByKey.keys Column.name column.toList := by
  rw [replay_addingKey, ← Blueprint.keys_withoutPrimary column.toList, ← ByKey.mem_keys_addAll]
  dsimp only
  split
  case isTrue => rw [Blueprint.keys_withoutPrimary]
  case isFalse => exact Iff.rfl

end

/-! ## There and back -/

/-- What a change of the key leaves of the entity's table once it has been taken back. -/
def rekeyed (entity : Entity) (name : String) (table : Option String) (target : KeyStrategy) :
    Blueprint :=
  let change : EntityChange := .rekeying name table ⟨entity.key, target⟩
  replay (replay (context.build entity) (context.forward change)) (context.backward change)

variable {entity : Entity} {target : KeyStrategy} (changes : entity.key ≠ target)
  (name : String) (table : Option String)

include changes

theorem rekeyed_eq :
    context.rekeyed entity name table target =
      let group := context.stepGroup (.rekeying name table ⟨entity.key, target⟩)
        (.key ⟨entity.key, target⟩)
      replay (replay (context.build entity) group.forward) group.backward := by
  simp only [rekeyed, forward_eq, backward_eq, EntityChange.steps_rekeying name table changes,
    forwardOf, backwardOf, List.reverse_singleton, List.flatMap_singleton]

theorem rekeyed_alike_of_counters (sourceCounter : entity.key.IsCounter)
    (targetCounter : target.IsCounter) :
    (context.rekeyed entity name table target).Alike (context.build entity) := by
  rw [rekeyed_eq context changes, stepGroup_counters sourceCounter targetCounter]
  apply Operation.Restores.replay_alike
  apply restores_counters (context.distinct_build entity) sourceCounter targetCounter
  intro column generated
  rcases context.exists_build_columns_eq_cons generated with ⟨rest, whole⟩
  rw [whole]
  exact List.mem_cons_self

section Rebuilt

variable (rebuilds : ¬(entity.key.IsCounter ∧ target.IsCounter))

include rebuilds

theorem rekeyed_eq_of_rebuilds :
    context.rekeyed entity name table target =
      let old := context.keyColumn? entity.key
      let new := context.keyColumn? target
      let oldKey := keyColumns (context.schema.entity? name) entity.key
      let newKey := keyColumns (context.schema.entity? name) target
      replay (replay (replay (replay (context.build entity) (droppingKey old oldKey))
        (addingKey new newKey)) (droppingKey new newKey)) (addingKey old oldKey) := by
  rw [rekeyed_eq context changes, stepGroup_rebuilding rebuilds]
  simp only [Operation.replay_append]
  rfl

/-- The generated column was dropped on the way, so what stands for it is what the way back adds. -/
theorem isPrimary_rekeyed_of_generated {generated : Column}
    (isGenerated : context.keyColumn? entity.key = some generated) {column : Column}
    (member : column ∈ (context.rekeyed entity name table target).columns)
    (isKey : column.name = "id") : column.isPrimary = false := by
  have isId : generated.name = "id" := context.keyColumn?_name isGenerated
  have key : keyColumns (context.schema.entity? name) entity.key = ["id"] :=
    if_neg (context.ne_declared_of_keyColumn? isGenerated)
  rw [rekeyed_eq_of_rebuilds context changes name table rebuilds, isGenerated, key] at member
  dsimp only at member
  rw [replay_addingKey] at member
  rcases List.mem_append.mp (ByKey.addAll_subset _ _ _ member) with stayed | added
  · have present := ByKey.mem_keys_of_mem Column.name stayed
    rw [isKey, mem_keys_droppingKey, mem_keys_addingKey, mem_keys_droppingKey] at present
    simp [isId] at present
  · rw [List.mem_singleton.mp added]
    exact generated.isPrimary_withoutPrimary

/-- What a table with a declared key had is all there again, apart from a column called `id`, and
the key is what the schema declares. -/
theorem rekeyed_of_declared (declared : entity.key = .declared) :
    let key := keyColumns (context.schema.entity? name) .declared
    let kept := ByKey.drop Column.name (context.build entity).columns ["id"]
    (context.rekeyed entity name table target).columns =
        (if 1 < key.length then kept.map (·.withoutPrimary) else kept)
      ∧ (context.rekeyed entity name table target).primaryKey = key := by
  have generated : target ≠ .declared := fun same => changes (declared.trans same.symm)
  rcases context.exists_keyColumn? generated with ⟨column, isColumn⟩
  have isId : column.name = "id" := context.keyColumn?_name isColumn
  have newKey : keyColumns (context.schema.entity? name) target = ["id"] := if_neg generated
  have unkeyed : context.keyColumn? .declared = none := rfl
  rw [rekeyed_eq_of_rebuilds context changes name table rebuilds, declared, newKey, isColumn,
    unkeyed]
  dsimp only
  rw [replay_addingKey_droppingKey, replay_addingKey, replay_droppingKey, isId]
  simp only [Option.toList_none, ByKey.keys_nil, ByKey.drop_nil, List.map_nil, ByKey.addAll_nil]
  refine ⟨trivial, ?_⟩
  cases keyColumns (context.schema.entity? name) .declared <;> rfl

theorem not_mem_keys_rekeyed_of_declared (declared : entity.key = .declared) :
    "id" ∉ ByKey.keys Column.name (context.rekeyed entity name table target).columns := by
  rw [(context.rekeyed_of_declared changes name table rebuilds declared).1]
  have dropped : "id" ∉ ByKey.keys Column.name
      (ByKey.drop Column.name (context.build entity).columns ["id"]) := by
    simp [ByKey.mem_keys_drop]
  split
  case isTrue => rwa [Blueprint.keys_withoutPrimary]
  case isFalse => exact dropped

end Rebuilt

/-- Whether the key comes back as it was: if both keys are counters, or if the key was declared, the
table had no column called `id` besides, and its key was the one that the schema declares. -/
theorem rekeyed_restored_iff :
    ((context.rekeyed entity name table target).columns.Perm (context.build entity).columns
        ∧ (context.rekeyed entity name table target).primaryKey =
          (context.build entity).primaryKey) ↔
      entity.key.IsCounter ∧ target.IsCounter
        ∨ entity.key = .declared ∧ (context.build entity).hasColumn "id" = false
          ∧ (context.build entity).primaryKey =
            keyColumns (context.schema.entity? name) .declared := by
  by_cases counters : entity.key.IsCounter ∧ target.IsCounter
  · have alike : (context.rekeyed entity name table target).Alike (context.build entity) :=
      context.rekeyed_alike_of_counters changes name table counters.1 counters.2
    exact iff_of_true ⟨alike.columns, alike.primaryKey⟩ (.inl counters)
  rw [or_iff_right counters]
  by_cases declared : entity.key = .declared
  · have taken := context.rekeyed_of_declared changes name table counters declared
    rw [and_iff_right declared, taken.2]
    constructor
    · rintro ⟨columns, same⟩
      have gone := context.not_mem_keys_rekeyed_of_declared changes name table counters declared
      have absent : "id" ∉ ByKey.keys Column.name (context.build entity).columns :=
        fun present => gone ((columns.map Column.name).mem_iff.mpr present)
      exact ⟨Bool.eq_false_iff.mpr (mt Blueprint.hasColumn_iff.mp absent), same.symm⟩
    · rintro ⟨free, same⟩
      refine ⟨?_, same.symm⟩
      have absent : ∀ column ∈ (context.build entity).columns, column.name ∉ ["id"] := by
        simpa [Blueprint.hasColumn] using free
      rw [taken.1, ByKey.drop_eq_self _ absent, ← same]
      split
      case isTrue composite => rw [context.build_columns_withoutPrimary entity composite]
      case isFalse => exact List.Perm.refl _
  · rcases context.exists_keyColumn? declared with ⟨generated, isGenerated⟩
    rcases context.exists_build_columns_eq_cons isGenerated with ⟨rest, whole⟩
    refine iff_of_false ?_ fun kept => declared kept.1
    rintro ⟨columns, _⟩
    have back : generated ∈ (context.rekeyed entity name table target).columns := by
      rw [columns.mem_iff, whole]
      exact List.mem_cons_self
    have isId : generated.name = "id" := context.keyColumn?_name isGenerated
    have unmarked := context.isPrimary_rekeyed_of_generated changes name table counters isGenerated
      back isId
    rw [context.isPrimary_keyColumn? isGenerated] at unmarked
    contradiction

omit changes

/-! Invoices are known by their tenant and a number, and posts by a counter. -/

def invoice : Entity where
  name := "Invoice"
  properties := [
    ("tenant", .scalar { typeName := "string", primary := true }),
    ("number", .scalar { typeName := "int", primary := true }),
    ("total", .scalar { typeName := "decimal" })]
  options := { key := .declared }

def ledgerContext : Context :=
  .ofSettings { entities := [("Invoice", invoice), ("Post", { name := "Post" })] } {}

theorem invoice_rekeyed_restored :
    invoice.key ≠ .uuid
      ∧ (ledgerContext.rekeyed invoice "Invoice" none .uuid).columns.Perm
        (ledgerContext.build invoice).columns
      ∧ (ledgerContext.rekeyed invoice "Invoice" none .uuid).primaryKey =
        (ledgerContext.build invoice).primaryKey := by
  have changes : invoice.key ≠ .uuid := by decide
  have free : (ledgerContext.build invoice).hasColumn "id" = false := by decide +kernel
  have key : (ledgerContext.build invoice).primaryKey =
      keyColumns (ledgerContext.schema.entity? "Invoice") .declared := by decide +kernel
  exact ⟨changes,
    (ledgerContext.rekeyed_restored_iff changes "Invoice" none).mpr (.inr ⟨rfl, free, key⟩)⟩

/-- A counter that gives way to a uuid comes back as a column that nothing marks as the key. -/
theorem post_not_rekeyed_restored :
    ({ name := "Post" } : Entity).key ≠ .uuid
      ∧ ¬(ledgerContext.rekeyed { name := "Post" } "Post" none .uuid).columns.Perm
        (ledgerContext.build { name := "Post" }).columns := by
  refine ⟨by decide, fun columns => ?_⟩
  have lost : ∃ column ∈ (ledgerContext.build { name := "Post" }).columns,
      column ∉ (ledgerContext.rekeyed { name := "Post" } "Post" none .uuid).columns := by
    decide +kernel
  rcases lost with ⟨column, stood, gone⟩
  exact gone (columns.mem_iff.mpr stood)

end Context

end Migration
