import Migration.Proofs.Blueprint.Origin
import Migration.Proofs.Schema.Findings

namespace Migration

/-! How an entity's table refers to the keys of other tables: each foreign key is over one column,
and leads to an entity that the schema knows. The column is kept as that entity's key asks for,
unless another property has taken its name. -/

/-- How the values of a column are kept. -/
def Column.stored (column : Column) : Storage × StorageArgs :=
  (column.storage, column.args)

@[simp] theorem Column.stored_withModifierIf (column : Column) (condition : Bool)
    (modifier : Modifier) : (column.withModifierIf condition modifier).stored = column.stored := by
  cases condition <;> rfl

@[simp] theorem Column.stored_withDefault? (column : Column) (value : Option Literal) :
    (column.withDefault? value).stored = column.stored := by
  cases value <;> rfl

@[simp] theorem Column.stored_withComment? (column : Column) (text : Option String) :
    (column.withComment? text).stored = column.stored := by
  cases text <;> rfl

/-- How references to a generated key are kept. -/
def KeyStrategy.reference? (settings : Settings) : KeyStrategy → Option (Storage × StorageArgs)
  | .increments => some (.unsignedInteger, {})
  | .bigIncrements => some (.unsignedBigInteger, {})
  | .uuid => some (.uuid, {})
  | .string => some (.string, { length := some settings.stringLength })
  | .declared => none

/-- The reserved names are none that a reference has. -/
theorem foreignKeyColumn_not_reserved (name : String) :
    foreignKeyColumn name ∉ ["id", "created_at", "updated_at", "deleted_at"] := by
  have ending : (foreignKeyColumn name).toList.reverse.take 3 = ['d', 'i', '_'] := by
    simp [foreignKeyColumn]
  intro reserved
  revert ending
  simp only [List.mem_cons, List.not_mem_nil, or_false] at reserved
  rcases reserved with same | same | same | same <;> rw [same] <;> decide

/-- The foreign key is over one column of the table, and leads to the key of an entity that the
schema knows under the name. -/
structure Context.Leads (context : Context) (blueprint : Blueprint) (foreignKey : ForeignKey)
    (column name : String) : Prop where
  known : ∃ target, context.schema.entity? name = some target
  columns : foreignKey.columns = [column]
  present : blueprint.hasColumn column = true
  table : foreignKey.referencedTable = context.schema.tableOf name
  referenced : foreignKey.referencedColumn = context.schema.referencedColumn name

/-- What is called so in the table is kept as a reference to the entity. -/
def Context.StoresReference (context : Context) (blueprint : Blueprint) (column name : String) :
    Prop :=
  ∀ candidate ∈ blueprint.columns, candidate.name = column →
    candidate.stored =
      (context.referenceColumn column (context.schema.keyTypeOf name)).stored

/-- Another property than the one that the foreign key comes from has a column of the same name. -/
def Context.Shadowed (context : Context) (entity : Entity) (foreignKey : ForeignKey) : Prop :=
  ∃ declaring ∈ entity.properties,
    foreignKey ∈ (context.ownParts entity declaring.1 declaring.2).foreignKeys
      ∧ ∃ other ∈ entity.properties, other ≠ declaring ∧ ∃ column ∈ foreignKey.columns,
        column ∈ ByKey.keys Column.name (context.ownParts entity other.1 other.2).columns

namespace Context

/-- Where the first column of a name is a reference, the table has that column under the name. -/
theorem storesReference_of_first {context : Context} {blueprint : Blueprint}
    {sources : List Column} {column name : String}
    (made : blueprint.columns.map (·.withoutPrimary) =
      (ByKey.addAll Column.name [] sources).map (·.withoutPrimary))
    (first : ByKey.find? Column.name sources column =
      some (context.referenceColumn column (context.schema.keyTypeOf name))) :
    blueprint.hasColumn column = true ∧ context.StoresReference blueprint column name := by
  constructor
  · have keys := congrArg (ByKey.keys Column.name) made
    rw [Blueprint.keys_withoutPrimary, Blueprint.keys_withoutPrimary] at keys
    rw [Blueprint.hasColumn_iff, keys, ByKey.mem_keys_addAll]
    refine .inr (Decidable.not_not.mp fun absent => ?_)
    rw [(ByKey.find?_eq_none _).mpr absent] at first
    contradiction
  · intro candidate member named
    have stripped : candidate.withoutPrimary ∈ blueprint.columns.map (·.withoutPrimary) :=
      List.mem_map_of_mem member
    rw [made] at stripped
    rcases List.mem_map.mp stripped with ⟨source, isSource, same⟩
    have sameName : source.withoutPrimary.name = candidate.withoutPrimary.name :=
      congrArg Column.name same
    have sameStored : source.withoutPrimary.stored = candidate.withoutPrimary.stored :=
      congrArg Column.stored same
    change source.name = candidate.name at sameName
    change source.stored = candidate.stored at sameStored
    have found := (ByKey.mem_addAll_nil _).mp isSource
    rw [sameName, named, first] at found
    rw [← sameStored, ← Option.some.inj found]

variable (context : Context)

theorem reference?_of_known {name : String} {entity : Entity}
    (known : context.schema.entity? name = some entity) (generated : entity.key ≠ .declared)
    (column : String) : entity.key.reference? context.settings =
      some (context.referenceColumn column (context.schema.keyTypeOf name)).stored := by
  rw [Schema.keyTypeOf, known, Option.bind_some]
  cases strategy : entity.key with
  | declared => contradiction
  | _ => rfl

theorem exists_association_of_mem_foreignKeys {entity table name : String} {property : Property}
    {foreignKey : ForeignKey}
    (member : foreignKey ∈ (context.parts entity table name property).foreignKeys) :
    ∃ association, property = .association association ∧ association.materializesColumn = true
      ∧ context.parts entity table name property =
        context.foreignKeyParts table name association := by
  cases property with
  | association association =>
      refine ⟨association, rfl, ?_⟩
      rw [parts, associationParts?] at member ⊢
      split
      case isTrue materializes => exact ⟨materializes, rfl⟩
      case isFalse apart =>
        rw [if_neg apart] at member
        split at member <;> simp [morphParts] at member
  | _ => simp [parts, plainParts] at member

theorem stored_of_mem_foreignKeyParts {table name : String} {association : Association}
    {column : Column} (member : column ∈ (context.foreignKeyParts table name association).columns) :
    column.stored = (context.referenceColumn (foreignKeyColumn name)
      (context.schema.keyTypeOf association.target)).stored := by
  rw [List.mem_singleton.mp member]
  simp

theorem reserved_of_mem_optionColumns {options : TableOptions} {column : Column}
    (member : column ∈ optionColumns options) :
    column.name ∈ ["id", "created_at", "updated_at", "deleted_at"] := by
  have reserved : ∀ column ∈ timestampColumns ++ [softDeleteColumn],
      column.name ∈ ["id", "created_at", "updated_at", "deleted_at"] := by
    decide
  exact reserved column (optionColumns_subset options member)

variable {context} {entity : Entity} {foreignKey : ForeignKey}

/-- The column of a foreign key comes from the property that has the foreign key, if no other
property has a column of that name. -/
theorem exists_leads_of_mem_build (clean : context.schema.findings = [])
    (member : entity ∈ context.schema.entities.values)
    (keyed : foreignKey ∈ (context.build entity).foreignKeys) :
    ∃ column name, context.Leads (context.build entity) foreignKey column name
      ∧ (context.Shadowed entity foreignKey
        ∨ context.StoresReference (context.build entity) column name) := by
  rcases context.exists_entry_of_mem_foreignKeys keyed with ⟨⟨name, property⟩, isEntry, own⟩
  rcases context.exists_association_of_mem_foreignKeys own with
    ⟨association, rfl, materializes, made⟩
  rcases Schema.exists_sound_of_mem clean member with ⟨_, sound⟩
  have direct : association.relation ≠ .morphTo := by
    intro morph
    simp [Association.materializesColumn, Relation.isToOne, morph] at materializes
  have parts : context.ownParts entity name (.association association) =
      context.foreignKeyParts entity.table name association := made
  have keys := context.keys_foreignKeyParts entity.table name association
  have isKey := own
  rw [parts, foreignKeyParts, List.mem_singleton] at isKey
  have columns : foreignKey.columns = [foreignKeyColumn name] := by rw [isKey]; rfl
  refine ⟨foreignKeyColumn name, association.target, ?_, ?_⟩
  · refine ⟨sound.exists_target isEntry direct, columns, ?_, by rw [isKey]; rfl,
      by rw [isKey]; rfl⟩
    apply context.hasColumn_of_mem_ownColumns isEntry
    rw [parts, keys]
    exact List.mem_singleton_self _
  · refine or_iff_not_imp_left.mpr fun unshadowed candidate isColumn named => ?_
    rcases context.exists_source_of_mem_build isColumn with ⟨source, isSource, same⟩
    have sameName : source.name = foreignKeyColumn name := (congrArg Column.name same).trans named
    have sameStored : source.withoutPrimary.stored = candidate.withoutPrimary.stored :=
      congrArg Column.stored same
    change source.stored = candidate.stored at sameStored
    rw [← sameStored]
    have unreserved := foreignKeyColumn_not_reserved name
    rw [← sameName] at unreserved
    rcases context.mem_sourceColumns.mp isSource with generated | ⟨other, isOther, isOwn⟩ | option
    · simp [context.keyColumn?_name generated] at unreserved
    · by_cases isDeclaring : other = (name, .association association)
      · rw [isDeclaring, parts] at isOwn
        exact context.stored_of_mem_foreignKeyParts isOwn
      · refine absurd ⟨_, isEntry, own, other, isOther, isDeclaring, source.name, ?_,
          ByKey.mem_keys_of_mem Column.name isOwn⟩ unshadowed
        rw [columns, sameName]
        exact List.mem_singleton_self _
    · exact absurd (reserved_of_mem_optionColumns option) unreserved

end Context

end Migration
