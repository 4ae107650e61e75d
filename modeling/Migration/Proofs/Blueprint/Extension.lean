import Migration.Proofs.Blueprint.PartColumns
import Migration.Proofs.Blueprint.PrimaryKey
import Migration.Proofs.Entity.Properties

namespace Migration

/-! One more property means the parts of that property and nothing else in the blueprint, if the
parts clash with nothing and do not belong to the key. -/

open Operation (replay)

namespace Column

@[simp] theorem isPrimary_unmodified (name : String) (storage : Storage) (args : StorageArgs) :
    ({ name, storage, args } : Column).isPrimary = false := rfl

@[simp] theorem isPrimary_withModifierIf (column : Column) (condition : Bool)
    (modifier : Modifier) :
    (column.withModifierIf condition modifier).isPrimary =
      (column.isPrimary || (condition && decide (modifier = .primary))) := by
  cases condition with
  | true => simp [withModifierIf, withModifier, isPrimary, eq_comm]
  | false => simp [withModifierIf]

@[simp] theorem isPrimary_withDefault? (column : Column) (value : Option Literal) :
    (column.withDefault? value).isPrimary = column.isPrimary := by
  cases value with
  | none => rfl
  | some value => simp [withDefault?, withModifier, isPrimary]

@[simp] theorem isPrimary_withComment? (column : Column) (text : Option String) :
    (column.withComment? text).isPrimary = column.isPrimary := by
  cases text with
  | none => rfl
  | some text => simp [withComment?, withModifier, isPrimary]

end Column

namespace Context

variable (context : Context)

@[simp] theorem isPrimary_stringColumn (name : String) :
    (context.stringColumn name).isPrimary = false := rfl

@[simp] theorem isPrimary_enumColumn (name : String) (values : List String) :
    (enumColumn name values).isPrimary = false := rfl

@[simp] theorem isPrimary_annotated (column : Column) (nullable : Bool) (default : Option Literal)
    (comment : Option String) :
    (annotated column nullable default comment).isPrimary = column.isPrimary := by
  simp [annotated]

@[simp] theorem isPrimary_referenceColumn (name : String) (key : KeyType) :
    (context.referenceColumn name key).isPrimary = false := by
  cases key <;> rfl

@[simp] theorem isPrimary_polymorphicIdColumn (name : String) (targets : List String) :
    (context.polymorphicIdColumn name targets).isPrimary = false := by
  rw [polymorphicIdColumn]
  split
  case isTrue =>
    split
    case h_1 => rfl
    case h_2 => exact context.isPrimary_referenceColumn ..
  case isFalse => rfl

theorem isPrimary_compoundColumns {name : String} {compound : CompoundType} {nullable : Bool}
    {overrides : Keyed FieldOverride} {comment : Option String} {column : Column}
    (member : column ∈ context.compoundColumns name compound nullable overrides comment) :
    column.isPrimary = false := by
  rcases List.mem_filterMap.mp member with ⟨part, _, made⟩
  rw [compoundColumn?] at made
  split at made
  case h_1 =>
    rw [← Option.some.inj made, isPrimary_annotated]
    rfl
  case h_2 =>
    dsimp only at made
    split at made
    case h_1 => contradiction
    case h_2 =>
      rw [← Option.some.inj made, isPrimary_annotated]
      rfl

theorem isPrimary_scalarColumn? {name : String} {scalar : Scalar} {comment : Option String}
    {column : Column} (made : context.scalarColumn? name scalar comment = some column) :
    column.isPrimary = scalar.primary := by
  rw [scalarColumn?] at made
  split at made
  case h_1 => contradiction
  case h_2 =>
    rw [← Option.some.inj made]
    simp

theorem isPrimary_plainColumns {name : String} {property : Property}
    (plain : property.isPrimary = false) {column : Column}
    (member : column ∈ context.plainColumns name property) : column.isPrimary = false := by
  cases property with
  | scalar scalar =>
      rw [plainColumns] at member
      split at member
      case h_1 => exact context.isPrimary_compoundColumns member
      case h_2 => exact (context.isPrimary_scalarColumn? (Option.mem_toList.mp member)).trans plain
  | enumeration enumeration =>
      rw [List.mem_singleton.mp member, isPrimary_annotated]
      rfl
  | enumReference reference =>
      rw [List.mem_singleton.mp member, isPrimary_annotated]
      split <;> rfl
  | association association => simp [plainColumns] at member
  | compound use =>
      rw [plainColumns] at member
      split at member
      case h_1 => exact context.isPrimary_compoundColumns member
      case h_2 =>
        rw [List.mem_singleton.mp member, isPrimary_annotated]
        rfl

theorem isPrimary_morphParts {entity table name : String} {association : Association}
    {column : Column}
    (member : column ∈ (context.morphParts entity table name association).columns) :
    column.isPrimary = false := by
  rcases List.mem_cons.mp member with rfl | isKey
  · rw [Column.isPrimary_withModifierIf, apply_ite Column.isPrimary]
    simp
  · rw [List.mem_singleton.mp isKey]
    simp

/-- Only a property that is flagged as primary has a primary column. -/
theorem isPrimary_parts {entity table name : String} {property : Property}
    (plain : property.isPrimary = false) {column : Column}
    (member : column ∈ (context.parts entity table name property).columns) :
    column.isPrimary = false := by
  cases property with
  | association association =>
      have unflagged : association.primary = false := plain
      rw [parts, associationParts?] at member
      split at member
      case isTrue =>
        rw [List.mem_singleton.mp member]
        simp [unflagged]
      case isFalse =>
        split at member
        case isTrue => exact context.isPrimary_morphParts member
        case isFalse => simp at member
  | _ => exact context.isPrimary_plainColumns plain member

theorem flagged_of_isPrimary {entity table name : String} {property : Property} {column : Column}
    (member : column ∈ (context.parts entity table name property).columns)
    (marked : column.isPrimary = true) : property.isPrimary = true := by
  by_contra unflagged
  rw [context.isPrimary_parts (Bool.eq_false_iff.mpr unflagged) member] at marked
  contradiction

end Context

/-- The parts have distinct names and shapes, and the blueprint has none of them. -/
structure Parts.Fresh (parts : Parts) (blueprint : Blueprint) : Prop
    extends Parts.Free parts blueprint where
  distinctColumns : (ByKey.keys Column.name parts.columns).Nodup
  distinctForeignKeys : (ByKey.keys ForeignKey.name parts.foreignKeys).Nodup
  distinctIndexes : (ByKey.keys Index.shape parts.indexes).Nodup

instance (parts : Parts) (blueprint : Blueprint) : Decidable (parts.Fresh blueprint) :=
  decidable_of_iff (parts.Free blueprint ∧ _ ∧ _ ∧ _)
    ⟨fun ⟨free, columns, foreignKeys, indexes⟩ => ⟨free, columns, foreignKeys, indexes⟩,
      fun fresh => ⟨fresh.toFree, fresh.distinctColumns, fresh.distinctForeignKeys,
        fresh.distinctIndexes⟩⟩

namespace Context

variable (context : Context)

/-- The parts of a property of the entity. -/
def ownParts (entity : Entity) (name : String) (property : Property) : Parts :=
  context.parts entity.name entity.table name property

section WithProperty

variable {context} {entity : Entity} (distinct : entity.properties.keys.Nodup) {name : String}
  {property : Property} (plain : property.isPrimary = false)
  (fresh : (context.ownParts entity name property).Fresh (context.build (entity.without name)))

include distinct fresh

include plain in
theorem inserted_draft_columns :
    Inserted (context.ownParts entity name property).columns
      (context.draftOf (entity.without name)).blueprint.columns
      (context.draftOf (entity.withProperty name property)).blueprint.columns := by
  have asTheyAre : (context.ownParts entity name property).columns.map (·.under entity.key) =
      (context.ownParts entity name property).columns := by
    apply ByKey.map_eq_self
    intro column member
    rw [Column.under, Column.withoutPrimary_of_unmarked (context.isPrimary_parts plain member)]
    split <;> rfl
  have free : ∀ column ∈ (context.ownParts entity name property).columns, column.name ∉
      ByKey.keys Column.name (context.draftOf (entity.without name)).blueprint.columns := by
    intro column member present
    apply (ByKey.find?_eq_none _).mp (fresh.columns column member)
    exact context.mem_keys_build_columns.mpr (.inl present)
  rcases context.inserted_propertyParts distinct name property with
    ⟨front, back, shorter, longer⟩
  rw [draftOf_blueprint, shorter] at free
  rw [draftOf_blueprint, draftOf_blueprint, shorter, longer]
  simp only [List.flatMap_append, List.flatMap_singleton] at free ⊢
  have between := Inserted.addAll_between Column.name _ _ _ free fresh.distinctColumns
  have made : (context.parts entity.name entity.table name property).columns.map
      (·.under (entity.withProperty name property).key) =
        (context.ownParts entity name property).columns := asTheyAre
  rw [made]
  exact between

include plain in
/-- The key is settled as before, and with it which columns lose their marker. -/
theorem inserted_keyed :
    (context.draftOf (entity.withProperty name property)).key =
        (context.draftOf (entity.without name)).key
      ∧ Inserted (context.ownParts entity name property).columns
        ((context.draftOf (entity.without name)).blueprint.setPrimaryKey
          (context.draftOf (entity.without name)).key).columns
        ((context.draftOf (entity.withProperty name property)).blueprint.setPrimaryKey
          (context.draftOf (entity.withProperty name property)).key).columns := by
  have columns := inserted_draft_columns distinct plain fresh
  have unmarked : ∀ column ∈ (context.ownParts entity name property).columns,
      column.isPrimary = false := fun column member => context.isPrimary_parts plain member
  have key : (context.draftOf (entity.withProperty name property)).key =
      (context.draftOf (entity.without name)).key := by
    rw [context.keyMarked_draftOf, context.keyMarked_draftOf]
    have marked := columns.filter (·.isPrimary)
    have none : (context.ownParts entity name property).columns.filter (·.isPrimary) = [] := by
      rw [List.filter_eq_nil_iff]
      intro column member primary
      rw [unmarked column member] at primary
      contradiction
    rw [none] at marked
    rw [marked.eq_of_nil]
  refine ⟨key, ?_⟩
  rw [key, Blueprint.setPrimaryKey, Blueprint.setPrimaryKey]
  dsimp only
  split
  case isTrue =>
    have stripped := columns.map (·.withoutPrimary)
    have same : (context.ownParts entity name property).columns.map (·.withoutPrimary) =
        (context.ownParts entity name property).columns := by
      apply ByKey.map_eq_self
      intro column member
      exact Column.withoutPrimary_of_unmarked (unmarked column member)
    rw [same] at stripped
    exact stripped
  case isFalse => exact columns

include plain in
theorem inserted_build_columns :
    Inserted (context.ownParts entity name property).columns
      (context.build (entity.without name)).columns
      (context.build (entity.withProperty name property)).columns := by
  have keyed := (inserted_keyed distinct plain fresh).2
  rw [build_eq, build_eq]
  apply keyed.addAll Column.name
  intro option member clash
  rcases (ByKey.mem_keys _).mp clash with ⟨column, columnMember, same⟩
  apply (ByKey.find?_eq_none _).mp (fresh.columns column columnMember)
  rw [same]
  exact context.mem_keys_build_columns.mpr (.inr (ByKey.mem_keys_of_mem _ member))

theorem inserted_build_foreignKeys :
    Inserted (context.ownParts entity name property).foreignKeys
      (context.build (entity.without name)).foreignKeys
      (context.build (entity.withProperty name property)).foreignKeys := by
  have free : ∀ foreignKey ∈ (context.ownParts entity name property).foreignKeys,
      foreignKey.name ∉ ByKey.keys ForeignKey.name
        (context.build (entity.without name)).foreignKeys :=
    fun foreignKey member => (ByKey.find?_eq_none _).mp (fresh.foreignKeys foreignKey member)
  rcases context.inserted_propertyParts distinct name property with
    ⟨front, back, shorter, longer⟩
  rw [build_foreignKeys, shorter] at free
  rw [build_foreignKeys, build_foreignKeys, shorter, longer]
  simp only [List.flatMap_append, List.flatMap_singleton] at free ⊢
  exact Inserted.addAll_between ForeignKey.name _ _ _ free fresh.distinctForeignKeys

theorem inserted_build_indexes (unindexed : ¬entity.Indexes name) :
    Inserted (context.ownParts entity name property).indexes
      (context.build (entity.without name)).indexes
      (context.build (entity.withProperty name property)).indexes := by
  have free : ∀ index ∈ (context.ownParts entity name property).indexes,
      index.shape ∉ ByKey.keys Index.shape (context.build (entity.without name)).indexes :=
    fun index member => (ByKey.find?_eq_none _).mp (fresh.indexes index member)
  have options := optionIndexes_without entity property unindexed
  rcases context.inserted_propertyParts distinct name property with
    ⟨front, back, shorter, longer⟩
  rw [build_indexes, shorter] at free
  rw [build_indexes, build_indexes, shorter, longer, ← options]
  simp only [List.flatMap_append, List.flatMap_singleton] at free ⊢
  have own := Inserted.addAll_between Index.shape _ _ _
    (fun index member present => free index member ((ByKey.mem_keys_addAll ..).mpr (.inl present)))
    fresh.distinctIndexes
  apply own.addAll Index.shape
  intro option member clash
  rcases (ByKey.mem_keys _).mp clash with ⟨index, indexMember, same⟩
  apply free index indexMember
  rw [same]
  exact (ByKey.mem_keys_addAll ..).mpr (.inr (ByKey.mem_keys_of_mem _ member))

include plain in
/-- To create the parts of a property is to build the blueprint with it in the first place. -/
theorem replay_creating_alike_build (unindexed : ¬entity.Indexes name) :
    (replay (context.build (entity.without name))
      (context.ownParts entity name property).creating).Alike
        (context.build (entity.withProperty name property)) := by
  have columnsFree : ∀ column ∈ (context.ownParts entity name property).columns,
      column.name ∉ ByKey.keys Column.name (context.build (entity.without name)).columns :=
    fun column member => (ByKey.find?_eq_none _).mp (fresh.columns column member)
  have foreignKeysFree : ∀ foreignKey ∈ (context.ownParts entity name property).foreignKeys,
      foreignKey.name ∉ ByKey.keys ForeignKey.name
        (context.build (entity.without name)).foreignKeys :=
    fun foreignKey member => (ByKey.find?_eq_none _).mp (fresh.foreignKeys foreignKey member)
  have indexesFree : ∀ index ∈ (context.ownParts entity name property).indexes,
      index.shape ∉ ByKey.keys Index.shape (context.build (entity.without name)).indexes :=
    fun index member => (ByKey.find?_eq_none _).mp (fresh.indexes index member)
  rw [Operation.replay_creating, ByKey.addAll_eq_append _ columnsFree fresh.distinctColumns,
    ByKey.addAll_eq_append _ foreignKeysFree fresh.distinctForeignKeys,
    ByKey.addAll_eq_append _ indexesFree fresh.distinctIndexes]
  refine ⟨?_, ?_, (inserted_build_columns distinct plain fresh).perm.symm,
    (inserted_build_foreignKeys distinct fresh).perm.symm,
    (inserted_build_indexes distinct fresh unindexed).perm.symm⟩
  · change (context.build (entity.without name)).table =
      (context.build (entity.withProperty name property)).table
    rw [build_table, build_table]
    rfl
  · have key := (inserted_keyed distinct plain fresh).1
    rw [build_eq, build_eq]
    exact key.symm

end WithProperty

end Context

end Migration
