import Migration.Operation.Group
import Migration.Proofs.Blueprint.DeclaredKey

namespace Migration

/-! A declared key as a change drops and adds it, beside the one that the table is built with. Both
are of the same columns, but the first in the order of the properties and the second with those of
associations last. -/

/-- No plain property comes after an association. -/
def AssociationsLast (properties : Keyed Property) : Prop :=
  properties.Pairwise fun earlier later =>
    earlier.2.isAssociation = true → later.2.isAssociation = true

instance (properties : Keyed Property) : Decidable (AssociationsLast properties) :=
  inferInstanceAs (Decidable (properties.Pairwise _))

/-- To move the plain properties to the front is seen from their columns, if they have different
ones, unless they are there already. -/
theorem map_plainFirst_eq_iff {properties : Keyed Property} {column : String × Property → String}
    (apart : (properties.map column).Nodup) :
    properties.map column = (plainFirst properties).map column ↔ AssociationsLast properties := by
  induction properties with
  | nil => simp [plainFirst, AssociationsLast]
  | cons entry rest induction =>
      rcases List.nodup_cons.mp apart with ⟨fresh, restApart⟩
      rw [AssociationsLast, List.pairwise_cons]
      cases isAssociation : entry.2.isAssociation with
      | false =>
          have moved : plainFirst (entry :: rest) = entry :: plainFirst rest := by
            simp [plainFirst, isAssociation]
          rw [moved, List.map_cons, List.map_cons, List.cons_inj_right, induction restApart]
          simp [AssociationsLast]
      | true =>
          have moved : plainFirst (entry :: rest) =
              rest.filter (!·.2.isAssociation) ++ entry :: rest.filter (·.2.isAssociation) := by
            simp [plainFirst, isAssociation]
          rw [moved]
          cases plain : rest.filter (!·.2.isAssociation) with
          | nil =>
              have onlyAssociations : ∀ other ∈ rest, other.2.isAssociation = true := by
                simpa using List.filter_eq_nil_iff.mp plain
              rw [List.filter_eq_self.mpr onlyAssociations, List.nil_append]
              refine iff_of_true rfl ⟨fun other member _ => onlyAssociations other member, ?_⟩
              exact List.pairwise_of_forall_mem_list fun _ _ other member _ =>
                onlyAssociations other member
          | cons first others =>
              -- The first plain property would be in the place of the association.
              have isFirst : first ∈ rest.filter (!·.2.isAssociation) := by simp [plain]
              rcases List.mem_filter.mp isFirst with ⟨isLater, isPlain⟩
              refine iff_of_false (fun same => ?_) fun last => ?_
              · have clash : column entry = column first := (List.cons_eq_cons.mp same).1
                exact fresh (clash ▸ List.mem_map_of_mem isLater)
              · simp [last.1 first isLater rfl] at isPlain

namespace Context

theorem keyColumns_declared (entity : Entity) :
    keyColumns (some entity) .declared =
      entity.flaggedProperties.map (physicalColumn entity ·.1) := by
  rw [keyColumns, if_pos rfl]
  exact List.map_map

theorem keyProperties_eq_flaggedProperties_iff {context : Context} {entity : Entity} :
    context.keyProperties entity = entity.flaggedProperties ↔
      ∀ entry ∈ entity.flaggedProperties, context.keepsKey entry.2 = true :=
  List.filter_eq_self

/-- The key of an entity is dropped and added with the columns of the key that its table is built
with if every flagged property has a column that may belong to a key; and with them in their order
exactly if, besides, no plain property of the key is declared after an association. -/
theorem keyColumns_eq_build_primaryKey_iff {context : Context} {name : String} {entity : Entity}
    (known : context.schema.entity? name = some entity) (declared : entity.key = .declared)
    (distinct : entity.properties.keys.Nodup) (owns : context.OwnsKey entity) :
    let kept := ∀ entry ∈ entity.flaggedProperties, context.keepsKey entry.2 = true
    let columns := keyColumns (context.schema.entity? name) .declared
    (columns.Perm (context.build entity).primaryKey ↔ kept)
      ∧ (columns = (context.build entity).primaryKey ↔
        kept ∧ AssociationsLast entity.flaggedProperties) := by
  intro kept columns
  have listed : columns = entity.flaggedProperties.map (physicalColumn entity ·.1) := by
    rw [← keyColumns_declared, ← known]
  have built := build_primaryKey_of_ownsKey distinct owns declared
  have members : columns.Perm (context.build entity).primaryKey ↔ kept := by
    constructor
    · intro perm
      have counted := perm.length_eq
      rw [listed, built, List.length_map, List.length_map,
        (plainFirst_perm _).length_eq] at counted
      exact List.length_filter_eq_length_iff.mp counted.symm
    · intro keeps
      rw [listed, built, keyProperties_eq_flaggedProperties_iff.mpr keeps]
      exact ((plainFirst_perm entity.flaggedProperties).map _).symm
  refine ⟨members, ?_⟩
  by_cases keeps : kept
  · have apart : columns.Nodup :=
      (members.mpr keeps).nodup_iff.mpr (nodup_build_primaryKey entity)
    rw [listed] at apart
    rw [and_iff_right keeps, listed, built, keyProperties_eq_flaggedProperties_iff.mpr keeps]
    exact map_plainFirst_eq_iff apart
  · exact iff_of_false (fun same => keeps (members.mp (same ▸ List.Perm.refl _)))
      fun both => keeps both.1

/-! Members of a group are known by their number in it. The schema of a club has the number before
the group, and that of a team the group before the number. -/

def clubMember : Entity where
  name := "Member"
  properties := [
    ("number", .scalar { typeName := "int", primary := true }),
    ("group", .association { relation := .manyToOne, target := "Group", primary := true }),
    ("joined", .scalar { typeName := "date" })]
  options := { key := .declared }

def teamMember : Entity where
  name := "Member"
  properties := [
    ("group", .association { relation := .manyToOne, target := "Group", primary := true }),
    ("number", .scalar { typeName := "int", primary := true }),
    ("joined", .scalar { typeName := "date" })]
  options := { key := .declared }

def memberContext (member : Entity) : Context :=
  .ofSettings { entities := [("Group", { name := "Group" }), ("Member", member)] } {}

theorem clubMember_keyColumns_eq :
    (memberContext clubMember).schema.entity? "Member" = some clubMember
      ∧ clubMember.key = .declared ∧ clubMember.properties.keys.Nodup
      ∧ (memberContext clubMember).OwnsKey clubMember
      ∧ keyColumns ((memberContext clubMember).schema.entity? "Member") .declared =
        ((memberContext clubMember).build clubMember).primaryKey := by
  have known : (memberContext clubMember).schema.entity? "Member" = some clubMember := rfl
  have distinct : clubMember.properties.keys.Nodup := by decide
  have owns : (memberContext clubMember).OwnsKey clubMember := by decide +kernel
  have kept : ∀ entry ∈ clubMember.flaggedProperties,
      (memberContext clubMember).keepsKey entry.2 = true := by decide +kernel
  have last : AssociationsLast clubMember.flaggedProperties := by decide
  exact ⟨known, rfl, distinct, owns,
    (keyColumns_eq_build_primaryKey_iff known rfl distinct owns).2.mpr ⟨kept, last⟩⟩

/-- The key of a team's members is dropped as one of group and number, and built as one of number
and group. -/
theorem teamMember_keyColumns_ne :
    (memberContext teamMember).schema.entity? "Member" = some teamMember
      ∧ teamMember.key = .declared ∧ teamMember.properties.keys.Nodup
      ∧ (memberContext teamMember).OwnsKey teamMember
      ∧ keyColumns ((memberContext teamMember).schema.entity? "Member") .declared ≠
        ((memberContext teamMember).build teamMember).primaryKey := by
  exact ⟨rfl, rfl, by decide, by decide +kernel, by decide +kernel⟩

end Context

end Migration
