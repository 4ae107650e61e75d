import Migration.Proofs.Blueprint.Indexed
import Migration.Proofs.Change.Steps

namespace Migration

/-! Under which name and over which columns a removed index is dropped. It was created over the
columns that the former version of the entity gave the names it was declared over, and it is dropped
over those that the present version gives them. -/

/-- The name stands for the column that is called after it. Only a reference to another entity is
kept in a column of another name. -/
def Entity.NamesColumn (entity : Entity) (name : String) : Prop :=
  ∀ association, entity.property? name = some (.association association) →
    association.materializesColumn = false
      ∧ (association.relation = .morphTo →
        morphName name association ++ "_id" = Text.snakeCase name)

theorem Entity.namesColumn_iff {entity : Entity} {name : String} :
    entity.NamesColumn name ↔ physicalColumn entity name = Text.snakeCase name := by
  have longer : foreignKeyColumn name ≠ Text.snakeCase name := by
    intro same
    have lengths := congrArg String.length same
    simp [foreignKeyColumn] at lengths
  rw [NamesColumn, physicalColumn]
  cases known : entity.property? name with
  | none => simp
  | some property =>
      cases property with
      | association association =>
          simp only [Option.some.injEq, Property.association.injEq, forall_eq']
          by_cases materializes : association.materializesColumn = true
          · simp [materializes, longer]
          · rw [if_neg materializes]
            have without : association.materializesColumn = false := by simpa using materializes
            by_cases morph : association.relation = .morphTo
            · simp [without, morph]
            · simp [without, morph]
      | _ => simp

namespace Context

/-- No index that the table has from its properties, or from the declarations before this one, is
over the same columns in the same way. -/
def Unsuppressed (context : Context) (entity : Entity) (earlier : List DeclaredIndex)
    (declared : DeclaredIndex) : Prop :=
  (physicalIndex (some entity) entity.table declared).shape ∉
    ByKey.keys Index.shape ((context.propertyParts entity).flatMap (·.indexes)
      ++ earlier.map (physicalIndex (some entity) entity.table))

instance (context : Context) (entity : Entity) (earlier : List DeclaredIndex)
    (declared : DeclaredIndex) : Decidable (context.Unsuppressed entity earlier declared) :=
  inferInstanceAs (Decidable (_ ∉ _))

theorem mem_build_indexes_of_unsuppressed {context : Context} {entity : Entity}
    {earlier later : List DeclaredIndex} {declared : DeclaredIndex}
    (isDeclared : entity.options.indexes = earlier ++ declared :: later)
    (unsuppressed : context.Unsuppressed entity earlier declared) :
    physicalIndex (some entity) entity.table declared ∈ (context.build entity).indexes := by
  let physical := physicalIndex (some entity) entity.table
  let own := (context.propertyParts entity).flatMap (·.indexes)
  have options : ∃ rest, optionIndexes entity = earlier.map physical ++ physical declared :: rest :=
    ⟨_, by rw [optionIndexes, isDeclared, List.append_assoc, List.cons_append, List.map_append,
      List.map_cons]⟩
  rcases options with ⟨rest, options⟩
  have none : ByKey.find? Index.shape (own ++ earlier.map physical) (physical declared).shape =
      .none :=
    (ByKey.find?_eq_none _).mpr unsuppressed
  rw [build_indexes, ByKey.addAll_addAll, options, ← List.append_assoc, ByKey.mem_addAll_nil,
    ByKey.find?_append, none, ByKey.find?_cons, if_pos rfl]
  rfl

theorem physicalIndex_eq_iff {left right : Entity} {table : String} {declared : DeclaredIndex} :
    physicalIndex (some left) table declared = physicalIndex (some right) table declared ↔
      ∀ name ∈ declared.columns, physicalColumn left name = physicalColumn right name := by
  rw [← List.map_inj_left, ← physicalIndex_columns table, ← physicalIndex_columns table]
  constructor
  · exact congrArg Index.columns
  · intro same
    rw [physicalIndex_columns, physicalIndex_columns] at same
    rw [physicalIndex, physicalIndex]
    dsimp only
    rw [same]

/-- Where the index is removed, the way forward drops it under this name and over these columns. -/
def DropsAs (context : Context) (change : EntityChange) (declared : DeclaredIndex)
    (dropped : Index) : Prop :=
  ∃ before after, change.steps = before ++ .index (.removed declared) :: after
    ∧ context.forward change =
      context.forwardOf change before ++ dropped.dropping :: context.forwardOf change after

theorem dropsAs_indexOf (context : Context) {change : EntityChange} {declared : DeclaredIndex}
    (removes : .removed declared ∈ change.indexes) :
    context.DropsAs change declared (context.indexOf change declared) := by
  have isStep : .index (.removed declared) ∈ change.steps := by
    simp [EntityChange.steps, removes]
  rcases List.append_of_mem isStep with ⟨before, after, steps⟩
  refine ⟨before, after, steps, ?_⟩
  rw [forward_eq, steps, forwardOf, List.flatMap_append, List.flatMap_cons]
  rfl

/-- A declared index that the former table has is dropped, once it is removed, as it was created if
and only if each of its names still stands for the same column. A name that is lost does so if it
stood for the column that is called after it. -/
theorem dropped_eq_created_iff (former context : Context) (change : EntityChange)
    {old new : Entity} {declared : DeclaredIndex} {earlier later : List DeclaredIndex}
    (holds : context.schema.entity? change.entity = some new) (sameTable : new.table = old.table)
    (unmoved : ∀ table ∈ change.table, table = old.table)
    (isDeclared : old.options.indexes = earlier ++ declared :: later)
    (unsuppressed : former.Unsuppressed old earlier declared)
    (removes : .removed declared ∈ change.indexes) :
    ∃ created ∈ (former.build old).indexes, ∃ dropped,
      created = physicalIndex (some old) old.table declared
        ∧ context.DropsAs change declared dropped
        ∧ (dropped = created ↔
          ∀ name ∈ declared.columns, physicalColumn new name = physicalColumn old name)
        ∧ ∀ name, new.property? name = none →
          (physicalColumn new name = physicalColumn old name ↔ old.NamesColumn name) := by
  have table : context.tableOfChange change = old.table := by
    rw [tableOfChange, Schema.tableOf, holds]
    cases given : change.table with
    | none => exact sameTable
    | some table => exact unmoved table given
  have dropped : context.indexOf change declared = physicalIndex (some new) old.table declared := by
    rw [indexOf, definitionOf, holds, table]
  refine ⟨_, mem_build_indexes_of_unsuppressed isDeclared unsuppressed, _, rfl,
    context.dropsAs_indexOf removes, ?_, ?_⟩
  · rw [dropped, physicalIndex_eq_iff]
  · intro name lost
    rw [physicalColumn_of_unknown lost, old.namesColumn_iff, eq_comm]

end Context

/-! Articles lose their status and an index over it, and then their author and another index. -/

def articleAuthor : Property :=
  .association { relation := .manyToOne, target := "User" }

def articleStatus : Property :=
  .scalar { typeName := "string" }

def articleTitle : Property :=
  .scalar { typeName := "string" }

def titleIndex : DeclaredIndex := { columns := ["title"] }

def statusIndex : DeclaredIndex := { columns := ["author", "status"] }

def authorIndex : DeclaredIndex := { columns := ["author", "title"], unique := true }

def article (properties : Keyed Property) (indexes : List DeclaredIndex) : Entity :=
  { name := "Article", properties := properties, options := { indexes := indexes } }

def firstArticle : Entity :=
  article [("author", articleAuthor), ("status", articleStatus), ("title", articleTitle)]
    [titleIndex, statusIndex, authorIndex]

def secondArticle : Entity :=
  article [("author", articleAuthor), ("title", articleTitle)] [titleIndex, authorIndex]

def thirdArticle : Entity :=
  article [("title", articleTitle)] [titleIndex]

def articleContext (version : Entity) : Context :=
  .ofSettings { entities := [("User", { name := "User" }), ("Article", version)] } {}

def statusChange : EntityChange where
  entity := "Article"
  columns := [.removed "status" articleStatus]
  indexes := [.removed statusIndex]

def authorChange : EntityChange where
  entity := "Article"
  columns := [.removed "author" articleAuthor]
  indexes := [.removed authorIndex]

/-- The author stays, and the status was in a column of its name. -/
theorem statusChange_drops_created : ∃ created ∈
    ((articleContext firstArticle).build firstArticle).indexes,
      created = ⟨"articles_author_id_status_index", ["author_id", "status"], false⟩
        ∧ (articleContext secondArticle).DropsAs statusChange statusIndex created := by
  have holds : (articleContext secondArticle).schema.entity? "Article" = some secondArticle := rfl
  have sameTable : secondArticle.table = firstArticle.table := rfl
  have isDeclared : firstArticle.options.indexes = [titleIndex] ++ statusIndex :: [authorIndex] :=
    rfl
  have dropped := Context.dropped_eq_created_iff (articleContext firstArticle)
    (articleContext secondArticle) statusChange holds sameTable (by decide) isDeclared
    (by decide +kernel) List.mem_cons_self
  rcases dropped with ⟨created, member, dropped, isCreated, drops, same, _⟩
  refine ⟨created, member, isCreated.trans (by decide +kernel), ?_⟩
  exact same.mpr (by decide +kernel) ▸ drops

/-- The author was in the column `author_id`, but is looked for in one of its own name. -/
theorem authorChange_drops_other :
    secondArticle.options.indexes = [titleIndex] ++ authorIndex :: []
      ∧ (articleContext secondArticle).Unsuppressed secondArticle [titleIndex] authorIndex
      ∧ ((articleContext secondArticle).build secondArticle).indexes =
        [⟨"articles_author_id_index", ["author_id"], false⟩,
          ⟨"articles_title_index", ["title"], false⟩,
          ⟨"articles_author_id_title_unique", ["author_id", "title"], true⟩]
      ∧ (articleContext thirdArticle).forward authorChange =
        [.dropIndex "articles_author_id_index" ["author_id"] false,
          .dropForeignKey "articles_author_id_foreign" ["author_id"], .dropColumn "author_id",
          .dropIndex "articles_author_title_unique" ["author", "title"] true] := by
  decide +kernel

end Migration
