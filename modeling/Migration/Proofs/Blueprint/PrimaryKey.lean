import Migration.Proofs.Blueprint.Build

namespace Migration

/-! The key of an entity's table. A generated key is the first column and the whole key, and no
other column is marked as primary. A key of several columns leaves none of them marked. -/

namespace Column

@[simp] theorem isPrimary_withoutPrimary (column : Column) :
    column.withoutPrimary.isPrimary = false := by
  simp [withoutPrimary, isPrimary]

@[simp] theorem withoutPrimary_name (column : Column) :
    column.withoutPrimary.name = column.name := rfl

theorem withoutPrimary_of_unmarked {column : Column} (unmarked : column.isPrimary = false) :
    column.withoutPrimary = column := by
  have kept : column.modifiers.filter (· ≠ .primary) = column.modifiers := by
    rw [List.filter_eq_self]
    intro modifier member
    have differs : modifier ≠ .primary := by
      rintro rfl
      simp [isPrimary, member] at unmarked
    simpa using differs
  rw [withoutPrimary, kept]

@[simp] theorem withoutPrimary_withoutPrimary (column : Column) :
    column.withoutPrimary.withoutPrimary = column.withoutPrimary :=
  withoutPrimary_of_unmarked column.isPrimary_withoutPrimary

@[simp] theorem withoutPrimary_under (strategy : KeyStrategy) (column : Column) :
    (column.under strategy).withoutPrimary = column.withoutPrimary := by
  rw [under]
  split
  case isTrue => rfl
  case isFalse => exact column.withoutPrimary_withoutPrimary

end Column

/-- Setting the key leaves a column as it is or takes its marker away. -/
theorem Blueprint.mem_or_stripped_of_mem_setPrimaryKey {blueprint : Blueprint} {key : List String}
    {column : Column} (member : column ∈ (blueprint.setPrimaryKey key).columns) :
    column ∈ blueprint.columns ∨ ∃ before ∈ blueprint.columns, before.withoutPrimary = column := by
  rw [setPrimaryKey] at member
  dsimp only at member
  split at member
  case isTrue => exact .inr (List.mem_map.mp member)
  case isFalse => exact .inl member

/-- A column is marked as primary only if it is the whole key. -/
def Blueprint.MarksKey (blueprint : Blueprint) : Prop :=
  ∀ column ∈ blueprint.columns, column.isPrimary = true → blueprint.primaryKey = [column.name]

instance (blueprint : Blueprint) : Decidable blueprint.MarksKey :=
  inferInstanceAs (Decidable (∀ _ ∈ _, _))

namespace Context

variable (context : Context) (entity : Entity)

theorem optionColumns_subset (options : TableOptions) :
    optionColumns options ⊆ timestampColumns ++ [softDeleteColumn] := by
  rw [optionColumns]
  cases options.timestamps <;> cases options.softDelete <;> simp

theorem isPrimary_optionColumns {options : TableOptions} {column : Column}
    (member : column ∈ optionColumns options) : column.isPrimary = false := by
  have unmarked : ∀ column ∈ timestampColumns ++ [softDeleteColumn], column.isPrimary = false := by
    decide
  exact unmarked column (optionColumns_subset options member)

theorem build_primaryKey : (context.build entity).primaryKey = (context.draftOf entity).key := by
  rw [build_eq]
  rfl

variable {entity} in
theorem isPrimary_build_of_composite {column : Column}
    (composite : 1 < (context.build entity).primaryKey.length)
    (member : column ∈ (context.build entity).columns) : column.isPrimary = false := by
  rw [build_primaryKey] at composite
  rw [build_eq, Blueprint.setPrimaryKey] at member
  dsimp only at member
  rw [if_pos composite] at member
  rcases List.mem_append.mp (ByKey.addAll_subset _ _ _ member) with own | option
  · rcases List.mem_map.mp own with ⟨before, _, rfl⟩
    exact before.isPrimary_withoutPrimary
  · exact isPrimary_optionColumns option

theorem build_columns_withoutPrimary (composite : 1 < (context.build entity).primaryKey.length) :
    (context.build entity).columns.map (·.withoutPrimary) = (context.build entity).columns := by
  apply ByKey.map_eq_self
  intro column member
  exact Column.withoutPrimary_of_unmarked (context.isPrimary_build_of_composite composite member)

theorem marksKey_build : (context.build entity).MarksKey := by
  intro column member marked
  have single : ¬1 < (context.build entity).primaryKey.length := by
    intro composite
    rw [context.isPrimary_build_of_composite composite member] at marked
    contradiction
  have inKey : column.name ∈ (context.build entity).primaryKey := by
    rw [build_primaryKey] at single ⊢
    rw [build_eq, Blueprint.setPrimaryKey] at member
    dsimp only at member
    rw [if_neg single] at member
    rcases List.mem_append.mp (ByKey.addAll_subset _ _ _ member) with own | option
    · rw [keyMarked_draftOf]
      exact List.mem_map_of_mem (List.mem_filter.mpr ⟨own, marked⟩)
    · rw [isPrimary_optionColumns option] at marked
      contradiction
  rcases List.length_eq_one_iff.mp (Nat.le_antisymm (Nat.le_of_not_lt single)
    (List.length_pos_of_mem inKey)) with ⟨name, key⟩
  rw [key] at inKey ⊢
  rw [List.mem_singleton.mp inKey]

theorem exists_keyColumn? {strategy : KeyStrategy} (generated : strategy ≠ .declared) :
    ∃ column, context.keyColumn? strategy = some column := by
  cases strategy with
  | declared => contradiction
  | _ => exact ⟨_, rfl⟩

section Generated

variable {strategy : KeyStrategy} {column : Column}
  (generated : context.keyColumn? strategy = some column)

include generated

theorem keyColumn?_name : column.name = "id" := by
  cases strategy <;> rcases generated with ⟨⟩ <;> rfl

theorem isPrimary_keyColumn? : column.isPrimary = true := by
  cases strategy <;> rcases generated with ⟨⟩ <;> rfl

theorem ne_declared_of_keyColumn? : strategy ≠ .declared := by
  rintro rfl
  contradiction

end Generated

section Build

variable {entity} {column : Column} (generated : context.keyColumn? entity.key = some column)

include generated

theorem exists_draftOf_columns_eq_cons :
    ∃ rest, (context.draftOf entity).blueprint.columns = column :: rest
      ∧ ∀ other ∈ rest, other.isPrimary = false := by
  have start : (context.startDraft entity).blueprint.columns = [column] := by
    rw [startDraft, generated]
  rw [draftOf_blueprint, start]
  rcases ByKey.exists_addAll_eq_append Column.name [column] ((context.propertyParts entity).flatMap
    fun parts => parts.columns.map (·.under entity.key)) with ⟨rest, given, whole⟩
  refine ⟨rest, whole, fun other member => ?_⟩
  rcases List.mem_flatMap.mp (given member) with ⟨parts, _, made⟩
  rcases List.mem_map.mp made with ⟨before, _, rfl⟩
  rw [Column.under, if_neg (context.ne_declared_of_keyColumn? generated)]
  exact before.isPrimary_withoutPrimary

theorem build_primaryKey_of_generated : (context.build entity).primaryKey = ["id"] := by
  rcases context.exists_draftOf_columns_eq_cons generated with ⟨rest, whole, unmarked⟩
  have none : rest.filter (·.isPrimary) = [] := by
    simpa [List.filter_eq_nil_iff] using unmarked
  rw [build_primaryKey, context.keyMarked_draftOf, whole,
    List.filter_cons_of_pos (context.isPrimary_keyColumn? generated), none,
    List.map_singleton, context.keyColumn?_name generated]

/-- The generated column comes first, with its marker. -/
theorem exists_build_columns_eq_cons :
    ∃ rest, (context.build entity).columns = column :: rest := by
  rcases context.exists_draftOf_columns_eq_cons generated with ⟨rest, whole, _⟩
  have single : ¬1 < (context.draftOf entity).key.length := by
    rw [← build_primaryKey, context.build_primaryKey_of_generated generated]
    simp
  rcases ByKey.exists_addAll_eq_append Column.name (column :: rest)
    (optionColumns entity.options) with ⟨added, _, built⟩
  refine ⟨rest ++ added, ?_⟩
  rw [build_eq, Blueprint.setPrimaryKey]
  dsimp only
  rw [if_neg single, whole, built]
  rfl

end Build

end Context

end Migration
