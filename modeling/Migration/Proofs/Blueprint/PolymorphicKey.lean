import Migration.Proofs.Blueprint.PrimaryKey

namespace Migration

/-! Whether the column for the key of a row in any of several tables has room for all their keys.
It has if the keys are all of one type, and otherwise if the text that it keeps them in is as long
as a text that is a key itself. -/

namespace Column

/-- How long a text has to be to hold every key of the generated column. A counter has up to twenty
digits. -/
def keyLength? (key : Column) : Option UInt32 :=
  match key.storage with
  | .increments | .bigIncrements => some 20
  | .uuid => some 36
  | .string => key.args.length
  | _ => none

/-- Every key of the generated column fits into the column. A counter fits into the integers of its
own width, and every key into a text that is long enough. -/
def holds (column key : Column) : Bool :=
  match column.storage, column.args.length, key.keyLength? with
  | .string, some length, some needed => needed ≤ length
  | .unsignedInteger, _, _ => key.storage = .increments
  | .unsignedBigInteger, _, _ => key.storage = .bigIncrements
  | _, _, _ => false

end Column

namespace Context

variable (context : Context)

/-- The only column called `id` is the generated one. -/
theorem eq_of_mem_build_of_generated {entity : Entity} {generated column : Column}
    (isGenerated : context.keyColumn? entity.key = some generated)
    (member : column ∈ (context.build entity).columns) (isId : column.name = "id") :
    column = generated := by
  rcases context.exists_build_columns_eq_cons isGenerated with ⟨rest, whole⟩
  have stands : generated ∈ (context.build entity).columns := by simp [whole]
  have single := ByKey.single_of_nodup Column.name (context.distinct_build entity).columns
  have named : generated.name = "id" := context.keyColumn?_name isGenerated
  exact single column member generated stands (isId.trans named.symm)

section Keys

variable {name : String} {strategy : KeyStrategy} {type : KeyType} {key : Column}
  (typed : strategy.keyType? = some type) (isKey : context.keyColumn? strategy = some key)

include typed isKey

/-- A reference to keys of its own type holds them. The reference to a uuid is not asked, for it
never stands for one among several tables. -/
theorem holds_referenceColumn (kept : type ≠ .uuid) :
    (context.referenceColumn name type).holds key = true := by
  cases strategy <;> rcases typed with ⟨⟩ <;> rcases isKey with ⟨⟩
  case uuid => contradiction
  case string => simp [referenceColumn, Column.holds, Column.keyLength?]
  all_goals rfl

/-- The text for keys of any type is too short at most for keys that are texts. -/
theorem holds_text_iff :
    ({ name, storage := .string, args := { length := some universalKeyLength } } : Column).holds key
        = true ↔
      type ≠ .string ∨ context.stringLength ≤ universalKeyLength := by
  cases strategy <;> rcases typed with ⟨⟩ <;> rcases isKey with ⟨⟩ <;>
    simp [Column.holds, Column.keyLength?, universalKeyLength]

end Keys

/-- The column refers to the one type of all keys, or it is a text, and then not all keys are. -/
theorem polymorphicIdColumn_cases (name : String) (targets : List String) :
    (∃ type, type ≠ .uuid ∧ (∀ target ∈ targets, context.schema.keyTypeOf target = type)
        ∧ context.polymorphicIdColumn name targets = context.referenceColumn name type)
      ∨ (∃ target ∈ targets, context.schema.keyTypeOf target ≠ .string)
        ∧ context.polymorphicIdColumn name targets =
          { name, storage := .string, args := { length := some universalKeyLength } } := by
  unfold polymorphicIdColumn
  cases targets with
  | nil => exact .inl ⟨.bigInt, by decide, by simp, rfl⟩
  | cons target rest =>
      simp only [List.map_cons, List.head?_cons, Option.getD_some]
      split
      case isTrue uniform =>
        have same : ∀ other ∈ target :: rest,
            context.schema.keyTypeOf other = context.schema.keyTypeOf target := by
          simpa using uniform
        split
        case h_1 uuid => exact .inr ⟨⟨target, by simp, by simp [uuid]⟩, rfl⟩
        case h_2 other => exact .inl ⟨_, other, same, rfl⟩
      case isFalse mixed =>
        refine .inr ⟨?_, rfl⟩
        by_contra texts
        push Not at texts
        refine mixed (List.all_eq_true.mpr fun type member => ?_)
        rw [← List.map_cons (f := context.schema.keyTypeOf)] at member
        rcases List.mem_map.mp member with ⟨other, isTarget, rfl⟩
        rw [texts other isTarget, texts target (by simp)]
        rfl

/-- The column has room for the key of any row in the tables of the entities. -/
def HoldsKeysOf (column : Column) (targets : List String) : Prop :=
  ∀ target ∈ targets, ∀ entity ∈ context.schema.entity? target,
    ∀ key ∈ (context.build entity).columns, key.name = "id" → column.holds key = true

instance (column : Column) (targets : List String) :
    Decidable (context.HoldsKeysOf column targets) :=
  inferInstanceAs (Decidable (∀ _ ∈ _, ∀ _ ∈ _, ∀ _ ∈ _, _))

theorem keyType?_eq_keyTypeOf {target : String} {entity : Entity}
    (known : context.schema.entity? target = some entity) (generated : entity.key ≠ .declared) :
    entity.key.keyType? = some (context.schema.keyTypeOf target) := by
  rw [Schema.keyTypeOf, known, Option.bind_some]
  cases strategy : entity.key with
  | declared => contradiction
  | _ => rfl

section Targets

variable {targets : List String} (generated : ∀ target ∈ targets,
  ∃ entity ∈ context.schema.entity? target, entity.key ≠ .declared)

include generated

/-- What matters of the entities is the types of their keys. -/
theorem holdsKeysOf_iff {column : Column} (fits : KeyType → Prop)
    (decides : ∀ strategy type key, strategy.keyType? = some type →
      context.keyColumn? strategy = some key →
        type ∈ targets.map context.schema.keyTypeOf → (column.holds key = true ↔ fits type)) :
    context.HoldsKeysOf column targets ↔
      ∀ target ∈ targets, fits (context.schema.keyTypeOf target) := by
  refine forall₂_congr fun target isTarget => ?_
  rcases generated target isTarget with ⟨entity, known, isGenerated⟩
  rcases context.exists_keyColumn? isGenerated with ⟨key, isKey⟩
  have verdict := decides entity.key _ key (context.keyType?_eq_keyTypeOf known isGenerated) isKey
    (List.mem_map_of_mem isTarget)
  rcases context.exists_build_columns_eq_cons isKey with ⟨rest, whole⟩
  rw [← verdict]
  constructor
  · intro holds
    exact holds entity known key (by simp [whole]) (context.keyColumn?_name isKey)
  · intro holds other isOther column member isId
    rw [Option.some.inj ((Option.mem_def.mp isOther).symm.trans known)] at member
    rwa [context.eq_of_mem_build_of_generated isKey member isId]

/-- The tables are those of entities with generated keys. The column has room for the keys of all
of them exactly if all keys are texts, or none is, or the texts are no longer than the one that is
taken for keys of any type. -/
theorem polymorphicIdColumn_holds_iff (name : String) :
    context.HoldsKeysOf (context.polymorphicIdColumn name targets) targets ↔
      (∀ target ∈ targets, context.schema.keyTypeOf target = .string)
        ∨ (∀ target ∈ targets, context.schema.keyTypeOf target ≠ .string)
        ∨ context.stringLength ≤ universalKeyLength := by
  rcases context.polymorphicIdColumn_cases name targets with
    ⟨type, kept, uniform, reference⟩ | ⟨⟨other, isTarget, noText⟩, text⟩
  · have holds : context.HoldsKeysOf (context.polymorphicIdColumn name targets) targets := by
      rw [reference, context.holdsKeysOf_iff generated (· = type)]
      · exact uniform
      · intro strategy given key typed isKey listed
        rcases List.mem_map.mp listed with ⟨target, isTarget, rfl⟩
        have same := uniform target isTarget
        rw [same] at typed
        exact iff_of_true (context.holds_referenceColumn typed isKey kept) same
    refine iff_of_true holds ?_
    by_cases texts : type = .string
    · exact .inl fun target isTarget => (uniform target isTarget).trans texts
    · exact .inr (.inl fun target isTarget => uniform target isTarget ▸ texts)
  · rw [text, context.holdsKeysOf_iff generated _ fun strategy type key typed isKey _ =>
      context.holds_text_iff typed isKey, or_iff_right fun texts => noText (texts other isTarget)]
    by_cases short : context.stringLength ≤ universalKeyLength <;> simp [short]

end Targets

/-! Pictures, films and authors may all be commented on. The first are known by a counter, the
others by a uuid and by a name. -/

def galleryContext : Context :=
  .ofSettings
    { entities := [
        ("Picture", { name := "Picture" }),
        ("Film", { name := "Film", options := { key := .uuid } }),
        ("Author", { name := "Author", options := { key := .string } })] }
    {}

theorem galleryContext_holds_keys :
    (∀ target ∈ ["Picture", "Film"], ∃ entity ∈ galleryContext.schema.entity? target,
        entity.key ≠ .declared)
      ∧ galleryContext.HoldsKeysOf
        (galleryContext.polymorphicIdColumn "commentable_id" ["Picture", "Film"])
        ["Picture", "Film"] := by
  have generated : ∀ target ∈ ["Picture", "Film"],
      ∃ entity ∈ galleryContext.schema.entity? target, entity.key ≠ .declared := by decide
  have noText : ∀ target ∈ ["Picture", "Film"],
      galleryContext.schema.keyTypeOf target ≠ .string := by decide
  exact ⟨generated, (galleryContext.polymorphicIdColumn_holds_iff generated _).mpr
    (.inr (.inl noText))⟩

/-- The name of an author may be longer than the text that a comment keeps it in. -/
theorem galleryContext_cuts_keys :
    (∀ target ∈ ["Picture", "Author"], ∃ entity ∈ galleryContext.schema.entity? target,
        entity.key ≠ .declared)
      ∧ ¬galleryContext.HoldsKeysOf
        (galleryContext.polymorphicIdColumn "commentable_id" ["Picture", "Author"])
        ["Picture", "Author"] := by
  decide +kernel

end Context

end Migration
