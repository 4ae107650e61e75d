import Mathlib.Data.List.Nodup
import Migration.Schema.Findings

namespace Migration

/-! What a schema without findings is like. -/

/-- The names that an entity's indexes and unique constraints are declared over. -/
def Entity.indexedNames (entity : Entity) : List String :=
  (entity.options.indexes.map (·.columns) ++ entity.options.unique).flatten

/-- What the absence of findings says of an entity: it has its name for a key, and nothing that
its properties and indexes name is missing. -/
structure Schema.Sound (schema : Schema) (key : String) (entity : Entity) : Prop where
  named : key = entity.name
  flawless : ∀ entry ∈ entity.properties, entry.2.fault? = none
  known : ∀ entry ∈ entity.properties, schema.propertyFaults entry.2 = []
  indexed : ∀ name ∈ entity.indexedNames,
    entity.property? name = none → isImplicitColumn name = true

namespace Schema

variable {schema : Schema}

theorem sound_of_findings {key : String} {entity : Entity}
    (keyClean : keyFindings key entity = []) (own : entity.findings = [])
    (properties : schema.propertyFindings entity = []) (indexes : indexFindings entity = []) :
    schema.Sound key entity where
  named := by
    rw [keyFindings] at keyClean
    split at keyClean
    case isTrue same => exact same
    case isFalse => contradiction
  flawless := by
    rw [Entity.findings] at own
    split at own
    case isTrue => contradiction
    case isFalse =>
      simp only [List.append_eq_nil_iff, Entity.propertyFindings, List.filterMap_eq_nil_iff,
        Option.map_eq_none_iff] at own
      exact own.1.2
  known := by
    simpa [propertyFindings, List.flatMap_eq_nil_iff] using properties
  indexed := by
    intro name member unknown
    simp only [indexFindings, List.map_eq_nil_iff, List.filter_eq_nil_iff] at indexes
    simpa [unknown] using indexes name member

theorem sound_of_findingsAfter {earlier : List Entity} {entries : Keyed Entity}
    (clean : schema.findingsAfter earlier entries = []) :
    ∀ entry ∈ entries, schema.Sound entry.1 entry.2 := by
  induction entries generalizing earlier with
  | nil => simp
  | cons entry rest induction =>
      simp only [findingsAfter, List.append_eq_nil_iff] at clean
      rcases clean with ⟨⟨⟨⟨⟨⟨keyClean, own⟩, _⟩, properties⟩, _⟩, indexes⟩, later⟩
      exact List.forall_mem_cons.mpr
        ⟨sound_of_findings keyClean own properties indexes, induction later⟩

theorem nodup_tables_of_findingsAfter {earlier : List Entity} {entries : Keyed Entity}
    (distinct : (earlier.map (·.table)).Nodup)
    (clean : schema.findingsAfter earlier entries = []) :
    ((earlier ++ entries.values).map (·.table)).Nodup := by
  induction entries generalizing earlier with
  | nil => simpa [Keyed.values] using distinct
  | cons entry rest induction =>
      simp only [findingsAfter, List.append_eq_nil_iff] at clean
      rcases clean with ⟨⟨⟨⟨⟨_, unshared⟩, _⟩, _⟩, _⟩, later⟩
      have fresh : entry.2.table ∉ earlier.map (·.table) := by
        rw [tableFindings] at unshared
        split at unshared
        case h_1 => contradiction
        case h_2 none => simpa using none
      have extended : ((earlier ++ [entry.2]).map (·.table)).Nodup := by
        rw [List.map_append]
        exact List.nodup_append_comm.mp (List.nodup_cons.mpr ⟨fresh, distinct⟩)
      have whole := induction extended later
      rwa [List.append_assoc] at whole

/-- Whoever is at the other end of an association that is not polymorphic is there. -/
theorem Sound.exists_target {key : String} {entity : Entity} (sound : schema.Sound key entity)
    {name : String} {association : Association}
    (member : (name, .association association) ∈ entity.properties)
    (direct : association.relation ≠ .morphTo) :
    ∃ target, schema.entity? association.target = some target := by
  have named : association.target ≠ "" := by
    have flawless := sound.flawless _ member
    intro empty
    simp [Property.fault?, empty, direct] at flawless
  have known := sound.known _ member
  simp only [propertyFaults, associationFaults, associationTargets, if_neg direct,
    List.append_eq_nil_iff, List.map_eq_nil_iff, List.filter_eq_nil_iff] at known
  have present := known.1 association.target (List.mem_singleton_self _)
  simpa [named, Option.isNone_iff_eq_none, Option.ne_none_iff_exists'] using present

theorem mem_values_of_entity? {name : String} {entity : Entity}
    (known : schema.entity? name = some entity) : entity ∈ schema.entities.values :=
  List.mem_map_of_mem (Keyed.mem_of_get? known)

variable (clean : schema.findings = [])

include clean

theorem sound_of_clean : ∀ entry ∈ schema.entities, schema.Sound entry.1 entry.2 :=
  sound_of_findingsAfter clean

theorem exists_sound_of_mem {entity : Entity} (member : entity ∈ schema.entities.values) :
    ∃ key, schema.Sound key entity := by
  rcases List.mem_map.mp member with ⟨⟨key, entity⟩, isEntry, rfl⟩
  exact ⟨key, sound_of_clean clean _ isEntry⟩

theorem exists_entity?_of_mem {entity : Entity} (member : entity ∈ schema.entities.values) :
    ∃ known, schema.entity? entity.name = some known := by
  rcases List.mem_map.mp member with ⟨⟨key, entity⟩, isEntry, rfl⟩
  have named : key = entity.name := (sound_of_clean clean _ isEntry).named
  exact named ▸ Keyed.exists_get?_of_mem isEntry

/-- No two entities are kept in one table. -/
theorem nodup_tables_of_clean : (schema.entities.values.map (·.table)).Nodup := by
  have none : (([] : List Entity).map (·.table)).Nodup := List.nodup_nil
  have whole := nodup_tables_of_findingsAfter none clean
  rwa [List.nil_append] at whole

end Schema

end Migration
