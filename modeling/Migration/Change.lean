import Migration.Entity.Basic

namespace Migration

open Json

/-! What changed in an entity from one version of a schema to the next. A change that is given
with a definition holds a snapshot of the property as it was or as it became. -/

inductive PropertyChange where
  | added (name : String) (current : Property)
  | removed (name : String) (previous : Property)
  | modified (name : String) (previous current : Option Property)
  | renamed (source target : String) (previous current : Option Property)

/-- The name after the change. -/
def PropertyChange.name : PropertyChange → String
  | .added name _ => name
  | .removed name _ => name
  | .modified name _ _ => name
  | .renamed _ target _ _ => target

inductive IndexChange where
  | added (index : DeclaredIndex)
  | removed (index : DeclaredIndex)
  deriving DecidableEq

structure Transition (α : Type) where
  source : α
  target : α
  deriving DecidableEq

def Transition.isChange {α : Type} [DecidableEq α] (transition : Transition α) : Bool :=
  transition.source ≠ transition.target

structure OptionChanges where
  timestamps : Option (Transition Bool) := none
  softDelete : Option (Transition Bool) := none
  key : Option (Transition KeyStrategy) := none
  deriving DecidableEq

def OptionChanges.anyChange (changes : OptionChanges) : Bool :=
  changes.timestamps.any (·.isChange) || changes.softDelete.any (·.isChange)
    || changes.key.any (·.isChange)

structure EntityChange where
  entity : String
  table : Option String := none
  columns : List PropertyChange := []
  indexes : List IndexChange := []
  options : OptionChanges := {}

def EntityChange.isEmpty (change : EntityChange) : Bool :=
  change.columns.isEmpty && change.indexes.isEmpty && !change.options.anyChange

/-- The changed entities, and the last definitions of the removed ones. -/
structure ChangeSet where
  changes : List EntityChange := []
  removed : List Entity := []

def ChangeSet.isEmpty (set : ChangeSet) : Bool :=
  set.changes.isEmpty && set.removed.isEmpty

/-! ## Documents -/

instance : Encode PropertyChange where
  encode
    | .added name current => tagged "change" "added" (field "name" name ++ field "current" current)
    | .removed name previous =>
        tagged "change" "removed" (field "name" name ++ field "previous" previous)
    | .modified name previous current => tagged "change" "modified" (
        field "name" name ++ optionalField "previous" previous ++ optionalField "current" current)
    | .renamed source target previous current => tagged "change" "renamed" (
        field "from" source ++ field "to" target ++ optionalField "previous" previous
          ++ optionalField "current" current)

instance : Decode PropertyChange where
  decode value := do
    match ← decodeTagged "change" value with
    | ("added", fields) =>
        let record ← decodeRecord ["name", "current"] fields
        return .added (← record.required "name") (← record.required "current")
    | ("removed", fields) =>
        let record ← decodeRecord ["name", "previous"] fields
        return .removed (← record.required "name") (← record.required "previous")
    | ("modified", fields) =>
        let record ← decodeRecord ["name", "previous", "current"] fields
        return .modified (← record.required "name") (← record.optional "previous")
          (← record.optional "current")
    | ("renamed", fields) =>
        let record ← decodeRecord ["from", "to", "previous", "current"] fields
        return .renamed (← record.required "from") (← record.required "to")
          (← record.optional "previous") (← record.optional "current")
    | (name, _) => throw (.unknown name)

instance : Encode IndexChange where
  encode
    | .added index => tagged "change" "added" (field "index" index)
    | .removed index => tagged "change" "removed" (field "index" index)

instance : Decode IndexChange where
  decode value := do
    match ← decodeTagged "change" value with
    | ("added", fields) => return .added (← (← decodeRecord ["index"] fields).required "index")
    | ("removed", fields) => return .removed (← (← decodeRecord ["index"] fields).required "index")
    | (name, _) => throw (.unknown name)

instance {α : Type} [Encode α] : Encode (Transition α) where
  encode transition := .object (field "from" transition.source ++ field "to" transition.target)

instance {α : Type} [Decode α] : Decode (Transition α) where
  decode value := do
    let record ← decodeRecord ["from", "to"] value
    return ⟨← record.required "from", ← record.required "to"⟩

instance : Encode OptionChanges where
  encode changes := .object (
    optionalField "timestamps" changes.timestamps
      ++ optionalField "soft_delete" changes.softDelete
      ++ optionalField "primary_key" changes.key)

instance : Decode OptionChanges where
  decode value := do
    let record ← decodeRecord ["timestamps", "soft_delete", "primary_key"] value
    return {
      timestamps := ← record.optional "timestamps"
      softDelete := ← record.optional "soft_delete"
      key := ← record.optional "primary_key" }

instance : Encode EntityChange where
  encode change := .object (
    field "entity" change.entity ++ optionalField "table" change.table
      ++ listField "columns" change.columns ++ listField "indexes" change.indexes
      ++ field "options" change.options)

instance : Decode EntityChange where
  decode value := do
    let record ← decodeRecord ["entity", "table", "columns", "indexes", "options"] value
    return {
      entity := ← record.required "entity"
      table := ← record.optional "table"
      columns := ← record.orElse "columns" []
      indexes := ← record.orElse "indexes" []
      options := ← record.orElse "options" {} }

instance : Encode ChangeSet where
  encode set := .object (field "changes" set.changes ++ field "removed" set.removed)

instance : Decode ChangeSet where
  decode value := do
    let record ← decodeRecord ["changes", "removed"] value
    return { changes := ← record.orElse "changes" [], removed := ← record.orElse "removed" [] }

end Migration
