import Migration.Operation.Delta
import Migration.Timestamp.Text

namespace Migration

open Json

/-! The migrations for a change set: one for every changed and every removed entity. -/

inductive RevisionKind where
  | update
  | drop
  deriving DecidableEq, Repr

def RevisionKind.name : RevisionKind → String
  | .update => "update"
  | .drop => "drop"

structure Revision where
  entity : String
  kind : RevisionKind
  delta : Delta
  timestamp : Timestamp
  deriving DecidableEq

namespace Revision

def table (revision : Revision) : String :=
  revision.delta.table

def fileStem (revision : Revision) : String :=
  revision.timestamp.text ++ "_" ++ revision.kind.name ++ "_" ++ revision.table ++ "_table"

end Revision

namespace Context

def updates (context : Context) (changes : List EntityChange) :
    List (String × RevisionKind × Delta) :=
  changes.filterMap fun change =>
    (context.delta? change).map fun delta => (change.entity, .update, delta)

def drops (context : Context) (removed : List Entity) : List (String × RevisionKind × Delta) :=
  removed.map fun entity => (entity.name, .drop, context.dropDelta entity)

/-- Changes come before removals, a second apart. Changes without an operation are left out. -/
def revisions (context : Context) (set : ChangeSet) (base : Timestamp) : List Revision :=
  (context.updates set.changes ++ context.drops set.removed).zipIdx.map
    fun ((entity, kind, delta), place) =>
      { entity := entity, kind := kind, delta := delta, timestamp := base.plusSeconds place }

end Context

/-- The migrations under the settings; `now` is the moment of the first if they give none. -/
def Schema.revisions (schema : Schema) (settings : Settings) (set : ChangeSet)
    (now : Timestamp) : List Revision :=
  (Context.ofSettings schema settings).revisions set (settings.baseTimestamp.getD now)

/-! ## Documents

The table is written twice, for the migration and for its operations. -/

instance : Encode RevisionKind := ⟨fun kind => .string kind.name⟩

instance : Decode RevisionKind :=
  ⟨decodeName [("update", RevisionKind.update), ("drop", RevisionKind.drop)]⟩

instance : Encode Revision where
  encode revision := .object (
    field "entity" revision.entity ++ field "table" revision.table
      ++ field "kind" revision.kind ++ field "operations" revision.delta
      ++ field "timestamp" revision.timestamp)

instance : Decode Revision where
  decode value := do
    let record ← decodeRecord ["entity", "table", "kind", "operations", "timestamp"] value
    let _ : String ← record.required "table"
    return {
      entity := ← record.required "entity"
      kind := ← record.required "kind"
      delta := ← record.required "operations"
      timestamp := ← record.required "timestamp" }

end Migration
