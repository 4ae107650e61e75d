import Migration.Proofs.Blueprint.Origin
import Migration.Proofs.Schema.Findings

namespace Migration

/-! Whether the indexes of an entity's table are over columns that it has. Those of properties are.
Those that are declared over names have a column for each name only if the property of that name
keeps one by it, or something else in the table happens to be called so. -/

namespace Context

variable (context : Context)

/-- The property has a column that goes by its name. -/
def keepsColumn : Property → Bool
  | .scalar scalar =>
      !context.schema.compounds.contains scalar.typeName
        && ScalarType.ofName scalar.typeName scalar.hints context.stringLength ≠ .external
  | .enumeration _ | .enumReference _ => true
  | .compound use => !context.schema.compounds.contains use.typeName
  | .association association => association.materializesColumn || association.relation = .morphTo

/-- There is a column for a name that an index is declared over. -/
def Backs (entity : Entity) (name : String) : Prop :=
  let columns := ByKey.keys Column.name (context.sourceColumns entity)
  match entity.property? name with
  | some property => context.keepsColumn property = true ∨ Text.snakeCase name ∈ columns
  | none => isImplicitColumn name = true ∧ Text.snakeCase name ∈ columns

instance (entity : Entity) (name : String) : Decidable (context.Backs entity name) :=
  match known : entity.property? name with
  | some _ => decidable_of_iff (_ ∨ _) (by rw [Backs, known])
  | none => decidable_of_iff (_ ∧ _) (by rw [Backs, known])

variable {entity : Entity} {name : String} {property : Property}

theorem keys_scalarColumn? {scalar : Scalar} {comment : Option String}
    (stored : ScalarType.ofName scalar.typeName scalar.hints context.stringLength ≠ .external) :
    ByKey.keys Column.name (context.scalarColumn? name scalar comment).toList =
      [Text.snakeCase name] := by
  rw [scalarColumn?]
  split
  case h_1 external => exact absurd external stored
  case h_2 => simp

theorem keys_plainColumns_of_keepsColumn (name : String) (plain : property.isAssociation = false)
    (keeps : context.keepsColumn property = true) :
    ByKey.keys Column.name (context.plainColumns name property) = [Text.snakeCase name] := by
  cases property with
  | scalar scalar =>
      simp only [keepsColumn, Bool.and_eq_true, Bool.not_eq_true', Keyed.contains,
        Option.isSome_eq_false_iff, Option.isNone_iff_eq_none, decide_eq_true_eq] at keeps
      rw [plainColumns, keeps.1]
      exact context.keys_scalarColumn? keeps.2
  | enumeration enumeration => simp [plainColumns, enumColumn]
  | enumReference reference =>
      rw [plainColumns]
      split <;> simp [enumColumn, stringColumn]
  | compound use =>
      simp only [keepsColumn, Bool.not_eq_true', Keyed.contains, Option.isSome_eq_false_iff,
        Option.isNone_iff_eq_none] at keeps
      rw [plainColumns, keeps]
      simp [stringColumn]
  | association association => contradiction

/-- The column that a property keeps is the one that it is found by. -/
theorem physicalColumn_mem_of_keepsColumn (known : entity.property? name = some property)
    (keeps : context.keepsColumn property = true) :
    physicalColumn entity name ∈
      ByKey.keys Column.name (context.ownParts entity name property).columns := by
  rw [physicalColumn, known, ownParts]
  cases property with
  | association association =>
      simp only [keepsColumn, Bool.or_eq_true, decide_eq_true_eq] at keeps
      rw [parts, associationParts?]
      dsimp only
      split
      case isTrue =>
        rw [Option.getD_some, keys_foreignKeyParts]
        exact List.mem_singleton_self _
      case isFalse apart =>
        have morph := keeps.resolve_left apart
        rw [if_pos morph, if_pos morph, Option.getD_some, keys_morphParts]
        simp
  | _ =>
      have named := context.keys_plainColumns_of_keepsColumn name rfl keeps
      exact named ▸ List.mem_singleton_self _

theorem physicalColumn_of_not_keepsColumn (known : entity.property? name = some property)
    (columnless : context.keepsColumn property = false) :
    physicalColumn entity name = Text.snakeCase name := by
  rw [physicalColumn, known]
  cases property with
  | association association =>
      simp only [keepsColumn, Bool.or_eq_false_iff, decide_eq_false_iff_not] at columnless
      simp [columnless]
  | _ => rfl

theorem physicalColumn_of_unknown (unknown : entity.property? name = none) :
    physicalColumn entity name = Text.snakeCase name := by
  rw [physicalColumn, unknown]

/-! ## Declared indexes -/

theorem physicalIndex_columns (table : String) (declared : DeclaredIndex) :
    (physicalIndex (some entity) table declared).columns =
      declared.columns.map (physicalColumn entity) := by
  rw [physicalIndex]
  dsimp only
  split <;> rfl

theorem optionIndexes_columns (entity : Entity) :
    (optionIndexes entity).flatMap (·.columns) =
      entity.indexedNames.map (physicalColumn entity) := by
  simp [optionIndexes, Entity.indexedNames, List.flatMap_def, physicalIndex_columns,
    List.map_flatten, Function.comp_def]

theorem exists_mem_build_indexes {index : Index} (member : index ∈ optionIndexes entity) :
    ∃ kept ∈ (context.build entity).indexes, kept.columns = index.columns := by
  have shape : index.shape ∈ ByKey.keys Index.shape (context.build entity).indexes := by
    rw [build_indexes, ByKey.mem_keys_addAll]
    exact .inr (ByKey.mem_keys_of_mem _ member)
  rcases (ByKey.mem_keys _).mp shape with ⟨kept, isKept, same⟩
  exact ⟨kept, isKept, congrArg Prod.fst same⟩

theorem hasColumn_of_mem_ownIndexes {entry : String × Property} (member : entry ∈ entity.properties)
    {index : Index} (own : index ∈ (context.ownParts entity entry.1 entry.2).indexes)
    {column : String} (named : column ∈ index.columns) :
    (context.build entity).hasColumn column = true := by
  have grounded := (context.parts_modest entity.name entity.table entry.1 entry.2).indexes
  exact context.hasColumn_of_mem_ownColumns member (grounded index own column named)

/-- An index of a property is over the columns of that property, so only the declared ones count. -/
theorem indexes_hasColumn_iff :
    (∀ index ∈ (context.build entity).indexes, ∀ column ∈ index.columns,
        (context.build entity).hasColumn column = true) ↔
      ∀ name ∈ entity.indexedNames,
        (context.build entity).hasColumn (physicalColumn entity name) = true := by
  constructor
  · intro real name declared
    have indexed : physicalColumn entity name ∈ (optionIndexes entity).flatMap (·.columns) := by
      rw [optionIndexes_columns]
      exact List.mem_map_of_mem declared
    rcases List.mem_flatMap.mp indexed with ⟨index, isOption, named⟩
    rcases context.exists_mem_build_indexes isOption with ⟨kept, isKept, same⟩
    exact real kept isKept _ (same ▸ named)
  · intro real index member column named
    rw [build_indexes] at member
    rcases List.mem_append.mp (ByKey.addAll_subset _ _ _ member) with own | option
    · have given := ByKey.addAll_subset _ _ _ own
      rw [List.nil_append] at given
      rcases List.mem_flatMap.mp given with ⟨parts, isPart, inParts⟩
      rcases context.mem_propertyParts.mp isPart with ⟨entry, isEntry, rfl⟩
      exact context.hasColumn_of_mem_ownIndexes isEntry inParts named
    · have indexed : column ∈ (optionIndexes entity).flatMap (·.columns) :=
        List.mem_flatMap.mpr ⟨index, option, named⟩
      rw [optionIndexes_columns] at indexed
      rcases List.mem_map.mp indexed with ⟨name, declared, rfl⟩
      exact real name declared

theorem hasColumn_physicalColumn_iff
    (implicit : entity.property? name = none → isImplicitColumn name = true) :
    (context.build entity).hasColumn (physicalColumn entity name) = true ↔
      context.Backs entity name := by
  rw [Backs]
  cases known : entity.property? name with
  | none =>
      rw [physicalColumn_of_unknown known, hasColumn_build_iff]
      exact (and_iff_right (implicit known)).symm
  | some property =>
      dsimp only
      cases keeps : context.keepsColumn property with
      | true =>
          refine iff_of_true ?_ (.inl rfl)
          have own := context.physicalColumn_mem_of_keepsColumn known keeps
          exact context.hasColumn_of_mem_ownColumns (Keyed.mem_of_get? known) own
      | false =>
          rw [context.physicalColumn_of_not_keepsColumn known keeps, hasColumn_build_iff]
          simp

end Context

/-- An entity of a schema without findings has indexes over columns that are there if and only if
every name that they are declared over is backed by a column. -/
theorem Schema.indexes_hasColumn_iff_backs {schema : Schema} (clean : schema.findings = [])
    (settings : Settings) {entity : Entity} (member : entity ∈ schema.entities.values) :
    let context := Context.ofSettings schema settings
    (∀ index ∈ (context.build entity).indexes, ∀ column ∈ index.columns,
        (context.build entity).hasColumn column = true) ↔
      ∀ name ∈ entity.indexedNames, context.Backs entity name := by
  rcases exists_sound_of_mem clean member with ⟨_, sound⟩
  dsimp only
  rw [Context.indexes_hasColumn_iff]
  apply forall_congr'
  intro name
  apply imp_congr_right
  intro declared
  exact Context.hasColumn_physicalColumn_iff _ (sound.indexed name declared)

/-! Posts are looked up by their author, their title and their kind, which stand for the three ways
in which a name can be backed. -/

def shelfSchema : Schema where
  entities := [
    ("Author", { name := "Author" }),
    ("Post", {
      name := "Post"
      properties := [
        ("author", .association { relation := .manyToOne, target := "Author" }),
        ("title", .scalar { typeName := "string" })]
      options := { indexes := [{ columns := ["author", "title"] }], unique := [["created_at"]] } })]

/-- Indexes over what the table has. -/
theorem shelfSchema_indexes_real :
    shelfSchema.findings = []
      ∧ ∃ entity ∈ shelfSchema.entities.values, entity.indexedNames ≠ []
        ∧ ∀ index ∈ ((Context.ofSettings shelfSchema {}).build entity).indexes,
          ∀ column ∈ index.columns,
            ((Context.ofSettings shelfSchema {}).build entity).hasColumn column = true := by
  have clean : shelfSchema.findings = [] := by decide +kernel
  have posts : ∃ entity ∈ shelfSchema.entities.values, entity.indexedNames ≠ []
      ∧ ∀ name ∈ entity.indexedNames, (Context.ofSettings shelfSchema {}).Backs entity name := by
    decide +kernel
  rcases posts with ⟨entity, member, indexed, backed⟩
  exact ⟨clean, entity, member, indexed,
    (Schema.indexes_hasColumn_iff_backs clean {} member).mpr backed⟩

/-- Without timestamps there is no column for the moment of creation, and an index over it is
accepted all the same. -/
def bareSchema : Schema where
  entities := [
    ("Post", {
      name := "Post"
      options := { timestamps := false, indexes := [{ columns := ["created_at"] }] } })]

theorem bareSchema_index_without_column :
    bareSchema.findings = []
      ∧ ∃ entity ∈ bareSchema.entities.values,
        ∃ index ∈ ((Context.ofSettings bareSchema {}).build entity).indexes,
          ∃ column ∈ index.columns,
            ((Context.ofSettings bareSchema {}).build entity).hasColumn column = false := by
  decide +kernel

end Migration
