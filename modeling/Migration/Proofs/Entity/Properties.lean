import Migration.Blueprint.Build
import Migration.Proofs.ByKey.Inserted
import Migration.Proofs.Keyed

namespace Migration

/-! An entity with one property put in or left out, and what that leaves as it is. -/

namespace Keyed

variable {α : Type}

def without (entries : Keyed α) (key : String) : Keyed α :=
  entries.filter (·.1 ≠ key)

theorem get?_without (entries : Keyed α) {key other : String} (differs : other ≠ key) :
    (entries.without key).get? other = entries.get? other := by
  induction entries with
  | nil => rfl
  | cons entry rest induction =>
      rcases entry with ⟨known, value⟩
      rw [without] at induction ⊢
      by_cases gone : known = key
      · rw [List.filter_cons_of_neg (by simpa using gone), induction, get?_cons,
          if_neg (gone ▸ differs)]
      · rw [List.filter_cons_of_pos (by simpa using gone), get?_cons, get?_cons, induction]

/-- Under a known key the new value takes the place of the old one. -/
theorem inserted_insert {entries : Keyed α} (distinct : entries.keys.Nodup) (key : String)
    (value : α) : Inserted [(key, value)] (entries.without key) (entries.insert key value) := by
  induction entries with
  | nil => exact .atEnd [(key, value)] []
  | cons entry rest induction =>
      rcases entry with ⟨known, old⟩
      have ⟨fresh, restDistinct⟩ := List.nodup_cons.mp distinct
      by_cases same : known = key
      · have kept : without rest key = rest := by
          rw [without, List.filter_eq_self]
          intro other member
          have listed : other.1 ∈ keys rest := List.mem_map_of_mem member
          have differs : other.1 ≠ known := fun equal => fresh (equal ▸ listed)
          simpa [same] using differs
        have left : without ((known, old) :: rest) key = rest := by
          rw [without, List.filter_cons_of_neg (by simpa using same)]
          exact kept
        have inserted : insert ((known, old) :: rest) key value = (key, value) :: rest := by
          rw [insert, if_pos same, same]
        rw [left, inserted]
        exact ⟨[], rest, rfl, rfl⟩
      · have left : without ((known, old) :: rest) key = (known, old) :: without rest key := by
          rw [without, List.filter_cons_of_pos (by simpa using same)]
          rfl
        have inserted : insert ((known, old) :: rest) key value =
            (known, old) :: insert rest key value := by
          rw [insert, if_neg same]
        have further := (induction restDistinct).append [(known, old)] []
        rw [List.append_nil, List.append_nil] at further
        rw [left, inserted]
        exact further

end Keyed

namespace Entity

def without (entity : Entity) (name : String) : Entity :=
  { entity with properties := entity.properties.without name }

def withProperty (entity : Entity) (name : String) (property : Property) : Entity :=
  { entity with properties := entity.properties.insert name property }

/-- An index or a unique constraint that the options ask for is over the property. -/
def Indexes (entity : Entity) (name : String) : Prop :=
  (∃ declared ∈ entity.options.indexes, name ∈ declared.columns)
    ∨ ∃ columns ∈ entity.options.unique, name ∈ columns

instance (entity : Entity) (name : String) : Decidable (entity.Indexes name) :=
  inferInstanceAs (Decidable (_ ∨ _))

theorem property?_without (entity : Entity) (property : Property) {name other : String}
    (differs : other ≠ name) :
    (entity.without name).property? other =
      (entity.withProperty name property).property? other := by
  have left : (entity.without name).property? other = entity.property? other :=
    Keyed.get?_without entity.properties differs
  have right : (entity.withProperty name property).property? other = entity.property? other :=
    (Keyed.get?_insert ..).trans (if_neg differs)
  rw [left, right]

end Entity

namespace Context

theorem physicalIndex_without (entity : Entity) (table : String) (property : Property)
    {name : String} {declared : DeclaredIndex} (other : name ∉ declared.columns) :
    physicalIndex (some (entity.without name)) table declared =
      physicalIndex (some (entity.withProperty name property)) table declared := by
  have columns : declared.columns.map (physicalColumn (entity.without name)) =
      declared.columns.map (physicalColumn (entity.withProperty name property)) := by
    apply List.map_congr_left
    intro column member
    have differs : column ≠ name := fun same => other (same ▸ member)
    rw [physicalColumn, physicalColumn, entity.property?_without property differs]
  rw [physicalIndex, physicalIndex]
  simp only [columns]

theorem optionIndexes_without (entity : Entity) (property : Property) {name : String}
    (other : ¬entity.Indexes name) :
    optionIndexes (entity.without name) = optionIndexes (entity.withProperty name property) := by
  apply List.map_congr_left
  intro declared member
  apply physicalIndex_without
  intro named
  rcases List.mem_append.mp member with isIndex | isUnique
  · exact other (.inl ⟨declared, isIndex, named⟩)
  · rcases List.mem_map.mp isUnique with ⟨columns, isListed, rfl⟩
    exact other (.inr ⟨columns, isListed, named⟩)

/-- The parts of the property stand among those of the others, plain ones before associations. -/
theorem inserted_propertyParts (context : Context) {entity : Entity}
    (distinct : entity.properties.keys.Nodup) (name : String) (property : Property) :
    Inserted [context.parts entity.name entity.table name property]
      (context.propertyParts (entity.without name))
      (context.propertyParts (entity.withProperty name property)) := by
  have inserted := Keyed.inserted_insert distinct name property
  have arranged : Inserted [(name, property)]
      ((entity.without name).properties.filter (!·.2.isAssociation)
        ++ (entity.without name).properties.filter (·.2.isAssociation))
      ((entity.withProperty name property).properties.filter (!·.2.isAssociation)
        ++ (entity.withProperty name property).properties.filter (·.2.isAssociation)) := by
    have plain := inserted.filter (!·.2.isAssociation)
    have associations := inserted.filter (·.2.isAssociation)
    cases association : property.isAssociation with
    | true =>
        simp only [List.filter_cons, List.filter_nil, association, Bool.not_true, if_true,
          Bool.false_eq_true, if_false] at plain associations
        have placed := associations.append
          ((entity.without name).properties.filter (!·.2.isAssociation)) []
        rw [List.append_nil, List.append_nil] at placed
        have same : (entity.withProperty name property).properties.filter (!·.2.isAssociation) =
            (entity.without name).properties.filter (!·.2.isAssociation) := plain.eq_of_nil
        rw [same]
        exact placed
    | false =>
        simp only [List.filter_cons, List.filter_nil, association, Bool.not_false, if_true,
          Bool.false_eq_true, if_false] at plain associations
        have placed := plain.append []
          ((entity.without name).properties.filter (·.2.isAssociation))
        have same : (entity.withProperty name property).properties.filter (·.2.isAssociation) =
            (entity.without name).properties.filter (·.2.isAssociation) := associations.eq_of_nil
        rw [same]
        exact placed
  exact arranged.map fun entry => context.parts entity.name entity.table entry.1 entry.2

end Context

end Migration
