import Migration.Proofs.Blueprint.ConstraintNames
import Migration.Proofs.Blueprint.Indexed

namespace Migration

/-! Whether the indexes and foreign keys of an entity's table have names of their own. Where none is
named explicitly, a name tells the kind of constraint, but of the columns only how they read one
after the other. -/

/-- The constraints are called after the table and their columns. -/
structure Parts.Conventional (table : String) (parts : Parts) : Prop where
  foreignKeys : ∀ foreignKey ∈ parts.foreignKeys,
    foreignKey.name = constraintName table foreignKey.columns "foreign"
  indexes : ∀ index ∈ parts.indexes,
    index.name = Index.conventionalName table index.columns index.unique

namespace Context

variable (context : Context)

theorem plainParts_conventional (table name : String) (property : Property) :
    (context.plainParts table name property).Conventional table := by
  unfold plainParts
  dsimp only
  split
  case h_1 =>
    split
    case isTrue => exact ⟨by simp, by simp [Index.onColumns]⟩
    case isFalse => exact ⟨by simp, by simp⟩
  case h_2 => exact ⟨by simp, by simp⟩

theorem parts_conventional (entity table name : String) (property : Property) :
    (context.parts entity table name property).Conventional table := by
  cases property with
  | association association =>
      rw [parts, associationParts?]
      split
      case isTrue =>
        exact ⟨by simp [foreignKeyParts, ForeignKey.onColumn],
          by simp [foreignKeyParts, Index.onColumns]⟩
      case isFalse =>
        split
        case isTrue => exact ⟨by simp [morphParts], by simp [morphParts, Index.onColumns]⟩
        case isFalse => exact ⟨by simp, by simp⟩
  | _ => exact context.plainParts_conventional table name _

variable {context} {entity : Entity}

theorem name_of_mem_build_foreignKeys {foreignKey : ForeignKey}
    (member : foreignKey ∈ (context.build entity).foreignKeys) :
    foreignKey.name = constraintName entity.table foreignKey.columns "foreign" := by
  rcases context.exists_entry_of_mem_foreignKeys member with ⟨entry, _, own⟩
  exact (context.parts_conventional entity.name entity.table entry.1 entry.2).foreignKeys _ own

theorem name_of_mem_build_indexes
    (unnamed : ∀ declared ∈ entity.options.indexes, declared.name = none) {index : Index}
    (member : index ∈ (context.build entity).indexes) :
    index.name = Index.conventionalName entity.table index.columns index.unique := by
  rw [build_indexes] at member
  rcases List.mem_append.mp (ByKey.addAll_subset _ _ _ member) with own | option
  · have given := ByKey.addAll_subset _ _ _ own
    rw [List.nil_append] at given
    rcases List.mem_flatMap.mp given with ⟨parts, isPart, inParts⟩
    rcases context.mem_propertyParts.mp isPart with ⟨entry, _, rfl⟩
    exact (context.parts_conventional entity.name entity.table entry.1 entry.2).indexes _ inParts
  · rcases List.mem_map.mp option with ⟨declared, isDeclared, rfl⟩
    have noName : declared.name = none := by
      rcases List.mem_append.mp isDeclared with listed | unique
      · exact unnamed declared listed
      · rcases List.mem_map.mp unique with ⟨columns, _, rfl⟩
        rfl
    rw [physicalIndex, noName]
    rfl

end Context

/-- What the name of an index says of it. -/
def Index.spelling (index : Index) : String × Bool :=
  (spelledColumns index.columns, index.unique)

/-- In the table of an entity that names no index itself, foreign keys have names of their own, and
the indexes do exactly if no two of them read the same. -/
theorem Context.nodup_constraintNames_build_iff (context : Context) {entity : Entity}
    (unnamed : ∀ declared ∈ entity.options.indexes, declared.name = none) :
    let blueprint := context.build entity
    (ByKey.keys ForeignKey.name blueprint.foreignKeys).Nodup
      ∧ (∀ foreignKey ∈ blueprint.foreignKeys, ∀ index ∈ blueprint.indexes,
        foreignKey.name ≠ index.name)
      ∧ ((ByKey.keys ForeignKey.name blueprint.foreignKeys
          ++ ByKey.keys Index.name blueprint.indexes).Nodup ↔
        (ByKey.keys Index.spelling blueprint.indexes).Nodup) := by
  intro blueprint
  have foreignKeys := (context.distinct_build entity).foreignKeys
  have apart : ∀ foreignKey ∈ blueprint.foreignKeys, ∀ index ∈ blueprint.indexes,
      foreignKey.name ≠ index.name := by
    intro foreignKey isForeignKey index isIndex
    rw [name_of_mem_build_foreignKeys isForeignKey, name_of_mem_build_indexes unnamed isIndex]
    exact foreignName_ne_conventionalName _ _ _ _
  have sameName {left right : Index} (isLeft : left ∈ blueprint.indexes)
      (isRight : right ∈ blueprint.indexes) :
      left.name = right.name ↔ left.spelling = right.spelling := by
    rw [name_of_mem_build_indexes unnamed isLeft, name_of_mem_build_indexes unnamed isRight,
      conventionalName_eq_iff, Index.spelling, Index.spelling, Prod.mk.injEq]
  have indexes : (ByKey.keys Index.name blueprint.indexes).Nodup ↔
      (ByKey.keys Index.spelling blueprint.indexes).Nodup := by
    rw [ByKey.keys, ByKey.keys, List.Nodup, List.Nodup, List.pairwise_map, List.pairwise_map]
    exact List.Pairwise.iff_of_mem fun isLeft isRight => not_congr (sameName isLeft isRight)
  refine ⟨foreignKeys, apart, ?_⟩
  rw [List.nodup_append, indexes]
  constructor
  · exact fun distinct => distinct.2.1
  · intro distinct
    refine ⟨foreignKeys, distinct, ?_⟩
    intro first isForeignKey second isIndex
    rcases (ByKey.mem_keys _).mp isForeignKey with ⟨foreignKey, keyMember, rfl⟩
    rcases (ByKey.mem_keys _).mp isIndex with ⟨index, indexMember, rfl⟩
    exact apart foreignKey keyMember index indexMember

/-! Members of a team, looked up by their role and in one more way. -/

def memberEntity (lookup : List String) : Entity where
  name := "Member"
  properties := [
    ("team", .association { relation := .manyToOne, target := "Team" }),
    ("team_role", .scalar { typeName := "string", indexed := true }),
    ("role_name", .scalar { typeName := "string" }),
    ("name", .scalar { typeName := "string" }),
    ("team_id_role", .scalar { typeName := "string" })]
  options := { indexes := [{ columns := ["team", "role_name"] }, { columns := lookup }] }

def memberContext (lookup : List String) : Context :=
  .ofSettings { entities := [("Team", { name := "Team" }), ("Member", memberEntity lookup)] } {}

theorem memberContext_names_distinct :
    let entity := memberEntity ["team_role", "name"]
    let blueprint := (memberContext ["team_role", "name"]).build entity
    (∀ declared ∈ entity.options.indexes, declared.name = none)
      ∧ (ByKey.keys ForeignKey.name blueprint.foreignKeys
        ++ ByKey.keys Index.name blueprint.indexes).Nodup := by
  have unnamed : ∀ declared ∈ (memberEntity ["team_role", "name"]).options.indexes,
      declared.name = none := by decide
  have named :=
    Context.nodup_constraintNames_build_iff (memberContext ["team_role", "name"]) unnamed
  exact ⟨unnamed, named.2.2.mpr (by decide +kernel)⟩

/-- The columns `team_id`, `role_name` and `team_id_role`, `name` read the same. -/
theorem memberContext_names_clash :
    let entity := memberEntity ["team_id_role", "name"]
    let blueprint := (memberContext ["team_id_role", "name"]).build entity
    (∀ declared ∈ entity.options.indexes, declared.name = none)
      ∧ (ByKey.keys Index.shape blueprint.indexes).Nodup
      ∧ ¬(ByKey.keys ForeignKey.name blueprint.foreignKeys
        ++ ByKey.keys Index.name blueprint.indexes).Nodup := by
  intro entity blueprint
  have names : ByKey.keys ForeignKey.name blueprint.foreignKeys
        ++ ByKey.keys Index.name blueprint.indexes =
      ["members_team_id_foreign", "members_team_role_index", "members_team_id_index",
        "members_team_id_role_name_index", "members_team_id_role_name_index"] := by
    decide +kernel
  refine ⟨by decide, (Context.distinct_build _ entity).indexes, ?_⟩
  rw [names]
  decide

end Migration
