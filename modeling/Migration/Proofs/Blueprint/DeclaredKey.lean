import Migration.Proofs.Blueprint.WellBuilt

namespace Migration

/-! The key that the properties flagged as primary form. A plain value and an association to one
have a column for it; where no other property takes the name of that column, the key is made of
these columns: first those of plain properties, and then those of associations. -/

namespace ByKey

variable {α κ : Type} [DecidableEq κ] (key : α → κ)

/-- Values that share their keys with no other all stay. -/
theorem filter_addAll {wanted : α → Bool} {values more : List α}
    (alone : (values ++ more).Pairwise fun left right =>
      key left = key right → wanted left = false ∧ wanted right = false) :
    (addAll key values more).filter wanted = values.filter wanted ++ more.filter wanted := by
  induction more generalizing values with
  | nil => simp
  | cons value rest induction =>
      have without : (values ++ rest).Pairwise fun left right =>
          key left = key right → wanted left = false ∧ wanted right = false :=
        alone.sublist ((List.sublist_cons_self value rest).append_left values)
      change (addAll key (add key values value) rest).filter wanted = _
      by_cases present : key value ∈ keys key values
      · -- A value that is passed over shares its key, so it is none of the wanted ones.
        rcases (mem_keys key).mp present with ⟨other, member, same⟩
        have unwanted : wanted value = false :=
          ((List.pairwise_append.mp alone).2.2 other member value (by simp) same).2
        have known : add key values value = values := by
          rw [add, if_pos (by simpa [keys] using present)]
        rw [known, induction without, List.filter_cons, if_neg (by simp [unwanted])]
      · rw [add_of_not_mem key present, induction (by simpa using alone), List.filter_append,
          List.append_assoc, ← List.filter_append, List.singleton_append]

end ByKey

namespace Context

variable (context : Context)

/-! ## The column of a property in the key -/

/-- The property has a single column of its own that may belong to the key: a plain value has, and
an association to one. -/
def keepsKey : Property → Bool
  | .scalar scalar => context.keepsColumn (.scalar scalar)
  | .association association => association.materializesColumn
  | _ => false

variable {context} {entity : Entity} {name : String} {property : Property} {column : Column}

theorem keepsColumn_of_keepsKey (keeps : context.keepsKey property = true) :
    context.keepsColumn property = true := by
  cases property with
  | scalar scalar => exact keeps
  | association association =>
      have materializes : association.materializesColumn = true := keeps
      simp [keepsColumn, materializes]
  | _ => contradiction

theorem exists_ownParts_columns (entity : Entity) (name : String)
    (keeps : context.keepsKey property = true) :
    ∃ column, (context.ownParts entity name property).columns = [column]
      ∧ column.isPrimary = property.isPrimary := by
  cases property with
  | scalar scalar =>
      simp only [keepsKey, keepsColumn, Bool.and_eq_true, Bool.not_eq_true', Keyed.contains,
        Option.isSome_eq_false_iff, Option.isNone_iff_eq_none, decide_eq_true_eq] at keeps
      change ∃ column, context.plainColumns name (.scalar scalar) = [column] ∧ _
      rw [plainColumns, keeps.1]
      cases made : context.scalarColumn? name scalar (context.comment? (.scalar scalar)) with
      | none =>
          have kept : ByKey.keys Column.name (context.scalarColumn? name scalar
              (context.comment? (.scalar scalar))).toList = [Text.snakeCase name] :=
            context.keys_scalarColumn? keeps.2
          simp [made] at kept
      | some column => exact ⟨column, rfl, context.isPrimary_scalarColumn? made⟩
  | association association =>
      have materializes : association.materializesColumn = true := keeps
      rw [ownParts, parts, associationParts?, if_pos materializes]
      exact ⟨_, rfl, by simp [Property.isPrimary]⟩
  | _ => contradiction

/-- A property with a primary column is one that may belong to the key. -/
theorem keepsKey_of_isPrimary (member : column ∈ (context.ownParts entity name property).columns)
    (marked : column.isPrimary = true) : context.keepsKey property = true := by
  by_contra apart
  have unmarked : column.isPrimary = false := by
    cases property with
    | scalar scalar =>
        change column ∈ context.plainColumns name (.scalar scalar) at member
        rw [plainColumns] at member
        split at member
        case h_1 => exact context.isPrimary_compoundColumns member
        case h_2 absent =>
          rw [scalarColumn?] at member
          split at member
          case h_1 => simp at member
          case h_2 stored => simp [keepsKey, keepsColumn, Keyed.contains, absent, stored] at apart
    | association association =>
        have noColumn : ¬association.materializesColumn = true := apart
        rw [ownParts, parts, associationParts?, if_neg noColumn] at member
        split at member
        case isTrue => exact context.isPrimary_morphParts member
        case isFalse => simp at member
    | _ => exact context.isPrimary_parts rfl member
  rw [marked] at unmarked
  contradiction

/-- A primary column is the one that its property is found by. -/
theorem name_eq_physicalColumn (known : entity.property? name = some property)
    (member : column ∈ (context.ownParts entity name property).columns)
    (keeps : context.keepsKey property = true) : column.name = physicalColumn entity name := by
  rcases exists_ownParts_columns entity name keeps with ⟨only, columns, _⟩
  have own := context.physicalColumn_mem_of_keepsColumn known (keepsColumn_of_keepsKey keeps)
  rw [columns] at own member
  rw [List.mem_singleton.mp member]
  exact (List.mem_singleton.mp own).symm

end Context

/-! ## The whole key -/

/-- Plain properties before associations, and otherwise in the order given. -/
def plainFirst (properties : Keyed Property) : Keyed Property :=
  properties.filter (!·.2.isAssociation) ++ properties.filter (·.2.isAssociation)

theorem plainFirst_perm (properties : Keyed Property) :
    (plainFirst properties).Perm properties :=
  List.perm_append_comm.trans (List.filter_append_perm (·.2.isAssociation) properties)

theorem filter_plainFirst (wanted : String × Property → Bool) (properties : Keyed Property) :
    (plainFirst properties).filter wanted = plainFirst (properties.filter wanted) := by
  simp only [plainFirst, List.filter_append, List.filter_filter, Bool.and_comm]

def Entity.flaggedProperties (entity : Entity) : Keyed Property :=
  entity.properties.filter (·.2.isPrimary)

namespace Context

/-- The properties that are flagged and have a column that may belong to the key. -/
def keyProperties (context : Context) (entity : Entity) : Keyed Property :=
  entity.flaggedProperties.filter (context.keepsKey ·.2)

/-- No other property has the column of one that forms the key. -/
def OwnsKey (context : Context) (entity : Entity) : Prop :=
  ∀ entry ∈ context.keyProperties entity, ∀ other ∈ entity.properties, other.1 ≠ entry.1 →
    physicalColumn entity entry.1 ∉
      ByKey.keys Column.name (context.ownParts entity other.1 other.2).columns

instance (context : Context) (entity : Entity) : Decidable (context.OwnsKey entity) :=
  inferInstanceAs (Decidable (∀ _ ∈ _, ∀ _ ∈ _, _ → _))

section OwnsKey

variable {context : Context} {entity : Entity}

theorem mem_keyProperties {entry : String × Property} :
    entry ∈ context.keyProperties entity ↔
      entry ∈ entity.properties ∧ entry.2.isPrimary = true ∧ context.keepsKey entry.2 = true := by
  rw [keyProperties, List.mem_filter, Entity.flaggedProperties, List.mem_filter, and_assoc]

/-- A property that forms the key has one column, a primary one, and any other has none. -/
theorem ownParts_columns_cases {entry : String × Property} (member : entry ∈ entity.properties) :
    (entry ∈ context.keyProperties entity
        ∧ ∃ column, (context.ownParts entity entry.1 entry.2).columns = [column]
          ∧ column.isPrimary = true)
      ∨ entry ∉ context.keyProperties entity
        ∧ ∀ column ∈ (context.ownParts entity entry.1 entry.2).columns,
          column.isPrimary = false := by
  by_cases forms : entry ∈ context.keyProperties entity
  · have ⟨_, flagged, keeps⟩ := mem_keyProperties.mp forms
    rcases exists_ownParts_columns entity entry.1 keeps with ⟨column, columns, marked⟩
    exact .inl ⟨forms, column, columns, marked.trans flagged⟩
  · refine .inr ⟨forms, fun column own => Bool.eq_false_iff.mpr fun marked => ?_⟩
    exact forms (mem_keyProperties.mpr
      ⟨member, context.flagged_of_isPrimary own marked, keepsKey_of_isPrimary own marked⟩)

section Distinct

variable (distinct : entity.properties.keys.Nodup)

include distinct

theorem name_of_mem_keyProperties {entry : String × Property}
    (forms : entry ∈ context.keyProperties entity) {column : Column}
    (own : column ∈ (context.ownParts entity entry.1 entry.2).columns) :
    column.name = physicalColumn entity entry.1 := by
  have ⟨member, _, keeps⟩ := mem_keyProperties.mp forms
  exact name_eq_physicalColumn (Keyed.get?_of_mem distinct member) own keeps

/-- What a property has in the key is its column, if it forms the key. -/
theorem primary_ownParts {entry : String × Property} (member : entry ∈ entity.properties) :
    ((context.ownParts entity entry.1 entry.2).columns.filter (·.isPrimary)).map (·.name) =
      ([entry].filter fun entry => context.keepsKey entry.2 && entry.2.isPrimary).map
        (physicalColumn entity ·.1) := by
  rcases context.ownParts_columns_cases member with ⟨forms, column, columns, marked⟩ | ⟨apart, none⟩
  · have ⟨_, flagged, keeps⟩ := mem_keyProperties.mp forms
    have name := name_of_mem_keyProperties distinct forms (columns ▸ List.mem_singleton_self column)
    rw [columns, List.filter_singleton, List.filter_singleton, marked, keeps, flagged]
    simp [name]
  · have unmet : (context.keepsKey entry.2 && entry.2.isPrimary) = false := by
      rw [Bool.and_comm]
      simpa [mem_keyProperties, member] using apart
    rw [List.filter_eq_nil_iff.mpr (by simpa using none), List.filter_singleton, unmet]
    rfl

variable (owns : context.OwnsKey entity)

include owns

/-- A column that clashes with one of another property is not in the key. -/
theorem isPrimary_of_clash {entry other : String × Property} (member : entry ∈ entity.properties)
    (otherMember : other ∈ entity.properties) (differs : other.1 ≠ entry.1)
    {column clashing : Column}
    (own : column ∈ (context.ownParts entity entry.1 entry.2).columns)
    (otherOwn : clashing ∈ (context.ownParts entity other.1 other.2).columns)
    (same : column.name = clashing.name) : column.isPrimary = false := by
  rcases context.ownParts_columns_cases member with ⟨forms, _⟩ | ⟨_, none⟩
  · refine absurd (ByKey.mem_keys_of_mem Column.name otherOwn) ?_
    rw [← same, name_of_mem_keyProperties distinct forms own]
    exact owns entry forms other otherMember differs
  · exact none column own

theorem pairwise_columns :
    ((plainFirst entity.properties).flatMap fun entry =>
      (context.ownParts entity entry.1 entry.2).columns).Pairwise fun left right =>
        left.name = right.name → left.isPrimary = false ∧ right.isPrimary = false := by
  have arranged := plainFirst_perm entity.properties
  -- A property has only one column or no primary one, and two properties have different names.
  refine List.pairwise_flatMap.mpr ⟨fun entry member => ?_, ?_⟩
  · rcases context.ownParts_columns_cases (arranged.subset member) with
      ⟨_, column, columns, _⟩ | ⟨_, none⟩
    · rw [columns]
      exact List.pairwise_singleton ..
    · exact List.pairwise_of_forall_mem_list fun left leftMember right rightMember _ =>
        ⟨none left leftMember, none right rightMember⟩
  · have names : ((plainFirst entity.properties).map (·.1)).Nodup :=
      (arranged.map _).nodup_iff.mpr distinct
    refine (List.pairwise_map.mp names).imp_of_mem ?_
    intro entry other member otherMember differs left leftMember right rightMember same
    have memberHere := arranged.subset member
    have otherHere := arranged.subset otherMember
    exact ⟨isPrimary_of_clash distinct owns memberHere otherHere (Ne.symm differs) leftMember
        rightMember same,
      isPrimary_of_clash distinct owns otherHere memberHere differs rightMember leftMember
        same.symm⟩

/-- The key is made of the columns of the properties that form it, plain ones before
associations. -/
theorem build_primaryKey_of_ownsKey (declared : entity.key = .declared) :
    (context.build entity).primaryKey =
      (plainFirst (context.keyProperties entity)).map (physicalColumn entity ·.1) := by
  have start : (context.startDraft entity).blueprint.columns = [] := by
    rw [startDraft_columns, declared]
    rfl
  have columns : (context.propertyParts entity).flatMap (·.columns) =
      (plainFirst entity.properties).flatMap fun entry =>
        (context.ownParts entity entry.1 entry.2).columns :=
    List.flatMap_map ..
  have primary : (plainFirst entity.properties).flatMap (fun entry =>
        ((context.ownParts entity entry.1 entry.2).columns.filter (·.isPrimary)).map (·.name)) =
      (plainFirst entity.properties).flatMap fun entry =>
        ([entry].filter fun entry => context.keepsKey entry.2 && entry.2.isPrimary).map
          (physicalColumn entity ·.1) :=
    List.flatMap_congr fun entry member =>
      primary_ownParts distinct ((plainFirst_perm entity.properties).subset member)
  rw [build_primaryKey, keyMarked_draftOf, draftOf_columns_of_declared declared, start, columns,
    ByKey.filter_addAll Column.name (pairwise_columns distinct owns), List.filter_nil,
    List.nil_append, List.filter_flatMap, List.map_flatMap, primary, ← List.map_flatMap,
    ← List.filter_flatMap, List.flatMap_singleton', filter_plainFirst, keyProperties,
    Entity.flaggedProperties, List.filter_filter]

end Distinct

end OwnsKey

end Context

end Migration
