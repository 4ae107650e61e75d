import Migration.Proofs.Pivot.Derivation
import Migration.Proofs.Text.Bytes

namespace Migration

/-! Which entity owns the join table of a polymorphic many-to-many relation. Every declarer looks
for the owner by itself, and they all find the same one: so there is one table, and it knows all
who declare the relation. -/

/-! ## Declarers -/

/-- The associations of an entity that declare a relation to the target. -/
def Entity.declarationsOf (entity : Entity) (target morph : String) : List Association :=
  (entity.associations.map (·.2)).filter fun association =>
    association.declaresMorph && association.target = target && association.relationName = morph

/-- The entities that declare the relation, in the order of the schema. -/
def Schema.declarersOf (schema : Schema) (target morph : String) : List Entity :=
  schema.entities.values.filter fun entity => !(entity.declarationsOf target morph).isEmpty

/-- One of the declarations is flagged as owning. -/
def Entity.ClaimsMorph (entity : Entity) (target morph : String) : Prop :=
  ∃ association ∈ entity.declarationsOf target morph, association.owning = some true

/-- The first declarer that claims the relation, or else the one whose name sorts first. -/
def Schema.OwnsMorph (schema : Schema) (target morph : String) (owner : Entity) : Prop :=
  (∃ before after, schema.declarersOf target morph = before ++ owner :: after
      ∧ owner.ClaimsMorph target morph
      ∧ ∀ earlier ∈ before, ¬earlier.ClaimsMorph target morph)
    ∨ owner ∈ schema.declarersOf target morph
      ∧ ∀ other ∈ schema.declarersOf target morph, ¬other.ClaimsMorph target morph
        ∧ Text.bytes owner.name ≤ Text.bytes other.name

/-- The join tables of the relation that are derived for one entity. -/
def Schema.morphTablesFor (schema : Schema) (target morph : String) (entity : Entity) :
    List MorphTable :=
  (schema.morphTables entity).filter fun table => table.target = target && table.morphName = morph

/-- The join tables of the relation, each with the entity that it is derived for. -/
def Schema.morphTablesOf (schema : Schema) (target morph : String) :
    List (Entity × MorphTable) :=
  schema.entities.values.flatMap fun entity =>
    (schema.morphTablesFor target morph entity).map (entity, ·)

/-! ## The owner -/

/-- What has been found so far is kept unless a lesser name follows. -/
theorem foldl_least (names : List String) (first : String) :
    names.foldl (fun least name => if name < least then name else least) first ∈ first :: names
      ∧ ∀ name ∈ first :: names,
        names.foldl (fun least name => if name < least then name else least) first ≤ name := by
  induction names generalizing first with
  | nil => simp
  | cons next rest induction =>
      rw [List.foldl_cons]
      split
      case isTrue less =>
        have ⟨member, least⟩ := induction next
        refine ⟨List.mem_cons_of_mem _ member, List.forall_mem_cons.mpr ⟨?_, least⟩⟩
        exact String.le_trans (least next List.mem_cons_self) (String.not_lt.mp (String.lt_asymm less))
      case isFalse notLess =>
        have ⟨member, least⟩ := induction first
        have ⟨ofFirst, ofRest⟩ := List.forall_mem_cons.mp least
        refine ⟨by grind, List.forall_mem_cons.mpr ⟨ofFirst, List.forall_mem_cons.mpr ⟨?_, ofRest⟩⟩⟩
        exact String.le_trans ofFirst (String.not_lt.mp notLess)

theorem of_leastName_eq_some {names : List String} {least : String}
    (found : leastName names = some least) : least ∈ names ∧ ∀ name ∈ names, least ≤ name := by
  cases names with
  | nil => contradiction
  | cons first rest => exact Option.some.inj found ▸ foldl_least rest first

theorem Entity.declaration?_eq (entity : Entity) (target morph : String) :
    entity.declaration? target morph = (entity.declarationsOf target morph).head? := by
  rw [declaration?, declarationsOf, List.head?_filter, List.find?_map]
  rfl

namespace Schema

variable {schema : Schema} {target morph : String}

theorem mem_declarations {entry : Entity × Association} :
    entry ∈ schema.declarations target morph ↔ entry.1 ∈ schema.entities.values
      ∧ (entry.1.declarationsOf target morph).head? = some entry.2 := by
  rcases entry with ⟨entity, association⟩
  simp only [declarations, List.mem_filterMap, Option.map_eq_some_iff, Entity.declaration?_eq,
    Prod.mk.injEq]
  constructor
  · rintro ⟨_, isEntity, _, first, rfl, rfl⟩
    exact ⟨isEntity, first⟩
  · rintro ⟨isEntity, first⟩
    exact ⟨entity, isEntity, association, first, rfl, rfl⟩

variable (schema target morph) in
theorem map_declarations :
    (schema.declarations target morph).map (·.1) = schema.declarersOf target morph := by
  rw [declarations, List.map_filterMap, declarersOf, ← List.filterMap_eq_filter]
  apply List.filterMap_congr
  intro entity _
  rw [Entity.declaration?_eq]
  cases declarations : entity.declarationsOf target morph <;> simp [declarations, Option.guard]

theorem claimsMorph_iff {entry : Entity × Association}
    (single : ∀ entity ∈ schema.entities.values, (entity.declarationsOf target morph).length ≤ 1)
    (member : entry ∈ schema.declarations target morph) :
    entry.1.ClaimsMorph target morph ↔ entry.2.owning = some true := by
  have ⟨isEntity, first⟩ := mem_declarations.mp member
  rcases List.head?_eq_some_iff.mp first with ⟨rest, declarations⟩
  have short := single entry.1 isEntity
  rw [declarations, List.length_cons] at short
  rw [Entity.ClaimsMorph, declarations, List.length_eq_zero_iff.mp (by omega : rest.length = 0)]
  simp

theorem OwnsMorph.mem_declarersOf {owner : Entity} (owns : schema.OwnsMorph target morph owner) :
    owner ∈ schema.declarersOf target morph := by
  rcases owns with ⟨before, after, split, _⟩ | ⟨isDeclarer, _⟩
  · rw [split]
    exact List.mem_append_right before List.mem_cons_self
  · exact isDeclarer

theorem ownsMorph_of_morphOwner? {name : String}
    (single : ∀ entity ∈ schema.entities.values, (entity.declarationsOf target morph).length ≤ 1)
    (found : morphOwner? (schema.declarations target morph) = some name) :
    ∃ owner, schema.OwnsMorph target morph owner ∧ owner.name = name := by
  rcases Option.or_eq_some_iff.mp found with flagged | ⟨unflagged, least⟩
  · rcases Option.map_eq_some_iff.mp flagged with ⟨⟨owner, association⟩, first, rfl⟩
    rcases List.find?_eq_some_iff_append.mp first with ⟨owning, before, after, split, earlier⟩
    have isDeclared (entry) (member : entry ∈ before ++ (owner, association) :: after) :
        entry ∈ schema.declarations target morph := split ▸ member
    refine ⟨owner, .inl ⟨before.map (·.1), after.map (·.1), ?_, ?_, ?_⟩, rfl⟩
    · rw [← map_declarations, split, List.map_append, List.map_cons]
    · have declared := isDeclared (owner, association) (by simp)
      exact (claimsMorph_iff single declared).mpr (by simpa using owning)
    · intro entity member
      rcases List.mem_map.mp member with ⟨entry, isEarlier, rfl⟩
      rw [claimsMorph_iff single (isDeclared _ (List.mem_append_left _ isEarlier))]
      simpa using earlier entry isEarlier
  · have unclaimed := List.find?_eq_none.mp (Option.map_eq_none_iff.mp unflagged)
    have ⟨isName, notGreater⟩ := of_leastName_eq_some least
    rcases List.mem_map.mp isName with ⟨⟨owner, association⟩, declared, rfl⟩
    have isDeclarer : owner ∈ schema.declarersOf target morph :=
      map_declarations schema target morph ▸ List.mem_map_of_mem declared
    refine ⟨owner, .inr ⟨isDeclarer, fun other isOther => ?_⟩, rfl⟩
    rw [← map_declarations] at isOther
    rcases List.mem_map.mp isOther with ⟨entry, otherDeclared, rfl⟩
    rw [claimsMorph_iff single otherDeclared]
    exact ⟨by simpa using unclaimed entry otherDeclared,
      Text.bytes_le (notGreater _ (List.mem_map_of_mem otherDeclared))⟩

theorem exists_morphOwner? (declared : schema.declarersOf target morph ≠ []) :
    ∃ name, morphOwner? (schema.declarations target morph) = some name := by
  rw [← map_declarations, ne_eq, List.map_eq_nil_iff] at declared
  rcases List.exists_cons_of_ne_nil declared with ⟨first, rest, whole⟩
  rw [morphOwner?, whole]
  cases ((first :: rest).find? (·.2.owning = some true)).map (·.1.name) with
  | some name => exact ⟨name, rfl⟩
  | none => exact ⟨_, rfl⟩

/-! ## Tables -/

theorem exists_morphTable? {entity : Entity} {association : Association}
    (declared : association ∈ entity.declarationsOf target morph)
    (owner : morphOwner? (schema.declarations target morph) = some entity.name) :
    ∃ table, schema.morphTable? entity association = some table := by
  have given := (List.mem_filter.mp declared).2
  simp only [Bool.and_eq_true, decide_eq_true_eq] at given
  rcases given with ⟨⟨declares, rfl⟩, rfl⟩
  rw [morphTable?, declares, owner]
  exact ⟨_, if_pos (by simp)⟩

theorem mem_morphTablesFor {entity : Entity} {table : MorphTable} :
    table ∈ schema.morphTablesFor target morph entity ↔
      table ∈ schema.morphTables entity ∧ table.target = target ∧ table.morphName = morph := by
  simp [morphTablesFor]

/-- Where the tables of an entity have names of their own, each of them stays. -/
theorem morphTablesFor_eq {entity : Entity}
    (distinct : ((entity.associations.filterMap (schema.morphTable? entity ·.2)).map
      (·.table)).Nodup) : schema.morphTablesFor target morph entity =
        (entity.declarationsOf target morph).filterMap (schema.morphTable? entity) := by
  have all : schema.morphTables entity =
      entity.associations.filterMap (schema.morphTable? entity ·.2) :=
    ByKey.addAll_eq_append MorphTable.table (by simp) distinct
  rw [morphTablesFor, all, Entity.declarationsOf, List.filter_filterMap, List.filterMap_filter,
    List.filterMap_map]
  apply List.filterMap_congr
  rintro ⟨_, association⟩ _
  dsimp only [Function.comp_apply]
  cases derived : schema.morphTable? entity association with
  | none => simp
  | some table =>
      have origin := derivedFrom_of_morphTable? derived
      simp [Option.filter, origin.declares, origin.target, origin.morphName]

section Found

variable {owner : Entity}
  (found : morphOwner? (schema.declarations target morph) = some owner.name)

include found

theorem morphTablesFor_of_ne {entity : Entity} (differs : entity.name ≠ owner.name) :
    schema.morphTablesFor target morph entity = [] := by
  rw [List.eq_nil_iff_forall_not_mem]
  intro table member
  rcases mem_morphTablesFor.mp member with ⟨derived, rfl, rfl⟩
  rcases exists_derivedFrom_of_mem_morphTables derived with ⟨_, _, _, origin⟩
  exact differs (Option.some.inj (origin.owner.symm.trans found))

theorem exists_morphTablesFor_eq_singleton (declares : owner.declarationsOf target morph ≠ [])
    (single : (owner.declarationsOf target morph).length ≤ 1)
    (distinct : ((owner.associations.filterMap (schema.morphTable? owner ·.2)).map
      (·.table)).Nodup) :
    ∃ table, schema.morphTablesFor target morph owner = [table]
      ∧ table.declarers = (schema.declarersOf target morph).map (·.name) := by
  have one := List.length_pos_iff.mpr declares
  rcases List.length_eq_one_iff.mp (Nat.le_antisymm single one) with ⟨association, declarations⟩
  have declared : association ∈ owner.declarationsOf target morph := by simp [declarations]
  rcases exists_morphTable? declared found with ⟨table, derived⟩
  have kept : schema.morphTablesFor target morph owner = [table] := by
    rw [morphTablesFor_eq distinct, declarations, List.filterMap_cons_some derived,
      List.filterMap_nil]
  rcases mem_morphTablesFor.mp (kept ▸ List.mem_singleton_self table) with ⟨_, rfl, rfl⟩
  refine ⟨table, kept, ?_⟩
  rw [(derivedFrom_of_morphTable? derived).declarers, ← map_declarations, List.map_map]
  rfl

end Found

/-- Entities of different names, each of which declares the relation once at most and keeps apart
the names of its tables: of all of them the owner alone has a table for the relation, and that one
lists all declarers. -/
theorem exists_morphTablesOf_eq_singleton
    (named : (schema.entities.values.map (·.name)).Nodup)
    (declared : schema.declarersOf target morph ≠ [])
    (single : ∀ entity ∈ schema.entities.values, (entity.declarationsOf target morph).length ≤ 1)
    (distinct : ∀ entity ∈ schema.entities.values,
      ((entity.associations.filterMap (schema.morphTable? entity ·.2)).map (·.table)).Nodup) :
    ∃ owner table, schema.OwnsMorph target morph owner
      ∧ schema.morphTablesOf target morph = [(owner, table)]
      ∧ table.declarers = (schema.declarersOf target morph).map (·.name)
      ∧ table.declarers.Nodup := by
  rcases exists_morphOwner? declared with ⟨name, found⟩
  rcases ownsMorph_of_morphOwner? single found with ⟨owner, owns, rfl⟩
  have ⟨isEntity, declares⟩ := List.mem_filter.mp owns.mem_declarersOf
  rcases exists_morphTablesFor_eq_singleton found (by simpa using declares)
    (single owner isEntity) (distinct owner isEntity) with ⟨table, derived, declarers⟩
  have distinctDeclarers : table.declarers.Nodup :=
    declarers ▸ named.sublist (List.filter_sublist.map Entity.name)
  refine ⟨owner, table, owns, ?_, declarers, distinctDeclarers⟩
  rcases List.append_of_mem isEntity with ⟨before, after, split⟩
  rw [split, List.map_append, List.map_cons, List.nodup_middle, List.nodup_cons,
    ← List.map_append] at named
  have noneOf (entities : List Entity) (others : entities ⊆ before ++ after) :
      entities.flatMap (fun entity =>
        (schema.morphTablesFor target morph entity).map (entity, ·)) = [] := by
    rw [List.flatMap_eq_nil_iff]
    intro other isOther
    have differs : other.name ≠ owner.name := fun same =>
      named.1 (same ▸ List.mem_map_of_mem (others isOther))
    rw [morphTablesFor_of_ne found differs, List.map_nil]
  rw [morphTablesOf, split, List.flatMap_append, List.flatMap_cons, derived,
    noneOf before (List.subset_append_left _ _), noneOf after (List.subset_append_right _ _)]
  rfl

/-! Images, posts and videos are tagged. Two of them claim the relation; among these the posts come
first, though it is the images whose name is least. -/

def taggedSchema : Schema where
  entities := [
    ("Tag", { name := "Tag" }),
    ("Video", { name := "Video", properties := [("tags", .association
      { relation := .morphToMany, target := "Tag", morphName := some "taggable" })] }),
    ("Post", { name := "Post", properties := [("labels", .association
      { relation := .morphToMany, target := "Tag", morphName := some "Taggable",
        owning := some true })] }),
    ("Image", { name := "Image", properties := [("tags", .association
      { relation := .morphToMany, target := "Tag", morphName := some "taggable",
        owning := some true })] })]

theorem taggedSchema_morph_once :
    (taggedSchema.entities.values.map (·.name)).Nodup
      ∧ taggedSchema.declarersOf "Tag" "taggable" ≠ []
      ∧ (∀ entity ∈ taggedSchema.entities.values,
        (entity.declarationsOf "Tag" "taggable").length ≤ 1)
      ∧ (∀ entity ∈ taggedSchema.entities.values,
        ((entity.associations.filterMap (taggedSchema.morphTable? entity ·.2)).map
          (·.table)).Nodup)
      ∧ ∃ owner table, owner.name = "Post" ∧ table.declarers = ["Video", "Post", "Image"]
        ∧ taggedSchema.OwnsMorph "Tag" "taggable" owner
        ∧ taggedSchema.morphTablesOf "Tag" "taggable" = [(owner, table)] := by
  have named : (taggedSchema.entities.values.map (·.name)).Nodup := by decide
  have declared : (taggedSchema.declarersOf "Tag" "taggable").map (·.name) =
      ["Video", "Post", "Image"] := by decide +kernel
  have someDeclared : taggedSchema.declarersOf "Tag" "taggable" ≠ [] := by
    intro none
    rw [none] at declared
    contradiction
  have single : ∀ entity ∈ taggedSchema.entities.values,
      (entity.declarationsOf "Tag" "taggable").length ≤ 1 := by decide +kernel
  have distinct : ∀ entity ∈ taggedSchema.entities.values,
      ((entity.associations.filterMap (taggedSchema.morphTable? entity ·.2)).map
        (·.table)).Nodup := by decide +kernel
  have owners : (taggedSchema.morphTablesOf "Tag" "taggable").map (·.1.name) = ["Post"] := by
    decide +kernel
  rcases exists_morphTablesOf_eq_singleton named someDeclared single distinct with
    ⟨owner, table, owns, only, declarers, _⟩
  rw [only] at owners
  exact ⟨named, someDeclared, single, distinct, owner, table, List.singleton_inj.mp owners,
    declarers.trans declared, owns, only⟩

end Schema

end Migration
