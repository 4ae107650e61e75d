import Migration.Proofs.Blueprint.Extension
import Migration.Proofs.Change.Steps

namespace Migration

/-! What a change makes of a table is what building the changed entity anew gives. -/

open Operation (replay)

namespace Operation

/-- Columns that were added and then altered into others are these others. -/
theorem find?_reshaped_addAll {columns : List Column} {old new : Parts}
    (oldFree : ∀ column ∈ old.columns, ByKey.find? Column.name columns column.name = none)
    (newFree : ∀ column ∈ new.columns, ByKey.find? Column.name columns column.name = none)
    (newDistinct : (ByKey.keys Column.name new.columns).Nodup) (name : String) :
    ByKey.find? Column.name
        (Blueprint.alterAll
          (ByKey.drop Column.name (ByKey.addAll Column.name columns old.columns)
            (ByKey.keys Column.name (staleColumns old new))) new.columns) name =
      ByKey.find? Column.name (ByKey.addAll Column.name columns new.columns) name := by
  have reversed : ByKey.find? Column.name new.columns.reverse name =
      ByKey.find? Column.name new.columns name :=
    (ByKey.find?_of_perm _ newDistinct (List.reverse_perm _).symm name).symm
  rw [Blueprint.find?_alterAll, reversed, ByKey.find?_drop, ByKey.find?_addAll, ByKey.find?_addAll]
  cases found : ByKey.find? Column.name new.columns name with
  | some column =>
      have ⟨member, atName⟩ := ByKey.mem_of_find? _ found
      have vacant := newFree column member
      rw [atName] at vacant
      rw [vacant, Option.some_or, Option.none_or]
  | none =>
      have notNew := (ByKey.find?_eq_none _).mp found
      rw [Option.none_or, Option.or_none]
      by_cases isOld : name ∈ ByKey.keys Column.name old.columns
      · rcases (ByKey.mem_keys _).mp isOld with ⟨column, member, rfl⟩
        rw [if_pos (mem_keys_staleColumns.mpr ⟨isOld, notNew⟩), oldFree column member]
      · have stays : name ∉ ByKey.keys Column.name (staleColumns old new) :=
          fun stale => isOld (mem_keys_staleColumns.mp stale).1
        rw [if_neg stays, (ByKey.find?_eq_none _).mpr isOld, Option.or_none]

/-- To create parts and then to reshape them is to create the others in the first place. -/
theorem replay_reshaping_alike_creating {start : Blueprint} (distinct : start.Distinct)
    {old new : Parts} (oldFree : old.Free start) (oldUnambiguous : old.Unambiguous)
    (newFresh : new.Fresh start) :
    (replay (replay start old.creating) (old.reshaping new)).Alike
      (replay start new.creating) := by
  apply Blueprint.Alike.of_lookups ((distinct.creating old).reshaping old new)
      (distinct.creating new) <;>
    rw [replay_reshaping, replay_creating, replay_creating]
  · exact find?_reshaped_addAll oldFree.columns newFresh.columns newFresh.distinctColumns
  · exact ByKey.find?_exchange_addAll _ oldFree.foreignKeys oldUnambiguous.foreignKeys
      (ByKey.single_of_nodup _ newFresh.distinctForeignKeys)
  · exact ByKey.find?_exchange_addAll _ oldFree.indexes oldUnambiguous.indexes
      (ByKey.single_of_nodup _ newFresh.distinctIndexes)

end Operation

namespace Entity

/-- The change of one property, for the table of that name if one is given. -/
def changing (entity : Entity) (table : Option String) (property : PropertyChange) :
    EntityChange where
  entity := entity.name
  table := table
  columns := [property]

end Entity

namespace Context

variable {context : Context} {entity : Entity} {table : Option String}

theorem tableOfChange_changing (keyed : context.schema.entity? entity.name = some entity)
    (ownTable : ∀ given ∈ table, given = entity.table) (property : PropertyChange) :
    context.tableOfChange (entity.changing table property) = entity.table := by
  change table.getD (context.schema.tableOf entity.name) = entity.table
  cases table with
  | some given => exact ownTable given rfl
  | none =>
      rw [Schema.tableOf, keyed]
      rfl

theorem partsOf_changing (keyed : context.schema.entity? entity.name = some entity)
    (ownTable : ∀ given ∈ table, given = entity.table) (step : PropertyChange) (name : String)
    (property : Property) :
    context.partsOf (entity.changing table step) name property =
      context.ownParts entity name property := by
  rw [partsOf, tableOfChange_changing keyed ownTable]
  rfl

theorem forward_changing (step : PropertyChange) :
    context.forward (entity.changing table step) =
      (context.stepGroup (entity.changing table step) (.property step)).forward := by
  have steps : (entity.changing table step).steps = [.property step] := rfl
  rw [forward_eq, steps, forwardOf_cons]
  exact List.append_nil _

section

variable (keyed : context.schema.entity? entity.name = some entity)
  (ownTable : ∀ given ∈ table, given = entity.table)

include keyed ownTable

theorem forward_adding (name : String) (property : Property) :
    context.forward (entity.changing table (.added name property)) =
      (context.ownParts entity name property).creating := by
  rw [forward_changing, ← partsOf_changing keyed ownTable]
  rfl

theorem forward_removing (name : String) (property : Property) :
    context.forward (entity.changing table (.removed name property)) =
      (context.ownParts entity name property).dropping := by
  rw [forward_changing, ← partsOf_changing keyed ownTable]
  rfl

theorem forward_modifying (name : String) (old new : Property) :
    context.forward (entity.changing table (.modified name (some old) (some new))) =
      (context.ownParts entity name old).reshaping (context.ownParts entity name new) := by
  rw [forward_changing, ← partsOf_changing keyed ownTable, ← partsOf_changing keyed ownTable]
  rfl

/-- For an entity with each property once, adding a property, removing it and modifying it lead from
the blueprint built before to the one built after, up to the order of columns and constraints. -/
theorem replay_forward_alike_build (distinct : entity.properties.keys.Nodup) {name : String}
    {old new : Property} (oldPlain : old.isPrimary = false) (newPlain : new.isPrimary = false)
    (oldFresh : (context.ownParts entity name old).Fresh (context.build (entity.without name)))
    (newFresh : (context.ownParts entity name new).Fresh (context.build (entity.without name)))
    (unindexed : ¬entity.Indexes name) :
    (replay (context.build (entity.without name))
        (context.forward (entity.changing table (.added name old)))).Alike
          (context.build (entity.withProperty name old))
      ∧ (replay (context.build (entity.withProperty name old))
          (context.forward (entity.changing table (.removed name old)))).Alike
            (context.build (entity.without name))
      ∧ (replay (context.build (entity.withProperty name old))
          (context.forward (entity.changing table (.modified name (some old) (some new))))).Alike
            (context.build (entity.withProperty name new)) := by
  rw [forward_adding keyed ownTable, forward_removing keyed ownTable,
    forward_modifying keyed ownTable]
  have created := replay_creating_alike_build distinct oldPlain oldFresh unindexed
  have replaced := replay_creating_alike_build distinct newPlain newFresh unindexed
  have bare := context.distinct_build (entity.without name)
  refine ⟨created, ?_, ?_⟩
  · exact Operation.restores_creating bare oldFresh.toFree _ created.symm
  · have unambiguous : (context.ownParts entity name old).Unambiguous :=
      (context.parts_modest entity.name entity.table name old).unambiguous
    have reshaped := Operation.replay_reshaping_alike_creating bare oldFresh.toFree unambiguous
      newFresh
    have fromBuild := created.symm.replay (context.distinct_build (entity.withProperty name old))
      (Operation.admissible_reshaping (context.ownParts entity name old)
        (context.ownParts entity name new) _)
    exact (fromBuild.trans reshaped).trans replaced

end

/-! The author of a post, first by name and then as a user of their own. -/

def authoredPost : Entity where
  name := "Post"
  properties := .ofList [("title", .scalar { typeName := "string" })]

def authorContext : Context :=
  .ofSettings { entities := [("User", { name := "User" }), ("Post", authoredPost)] } {}

def authorByName : Property :=
  .scalar { typeName := "string", indexed := true }

def authorByKey : Property :=
  .association { relation := .manyToOne, target := "User" }

theorem authoredPost_changes_agree :
    authorContext.schema.entity? authoredPost.name = some authoredPost
      ∧ (authorContext.ownParts authoredPost "author" authorByName).Fresh
        (authorContext.build (authoredPost.without "author"))
      ∧ (authorContext.ownParts authoredPost "author" authorByKey).Fresh
        (authorContext.build (authoredPost.without "author"))
      ∧ ¬authoredPost.Indexes "author"
      ∧ (replay (authorContext.build (authoredPost.withProperty "author" authorByName))
          (authorContext.forward (authoredPost.changing none
            (.modified "author" (some authorByName) (some authorByKey))))).Alike
              (authorContext.build (authoredPost.withProperty "author" authorByKey)) := by
  have keyed : authorContext.schema.entity? authoredPost.name = some authoredPost := rfl
  have ownTable : ∀ given ∈ (none : Option String), given = authoredPost.table := by simp
  have distinct : authoredPost.properties.keys.Nodup := Keyed.nodup_ofList _
  have oldFresh : (authorContext.ownParts authoredPost "author" authorByName).Fresh
      (authorContext.build (authoredPost.without "author")) := by decide +kernel
  have newFresh : (authorContext.ownParts authoredPost "author" authorByKey).Fresh
      (authorContext.build (authoredPost.without "author")) := by decide +kernel
  have unindexed : ¬authoredPost.Indexes "author" := by decide
  have agree := replay_forward_alike_build keyed ownTable distinct rfl rfl oldFresh newFresh
    unindexed
  exact ⟨keyed, oldFresh, newFresh, unindexed, agree.2.2⟩

end Context

end Migration
