import Migration.Proofs.Blueprint.Origin
import Migration.Proofs.Blueprint.PolymorphicKey

namespace Migration

/-! Columns that can be rendered. However a column comes about, it has the arguments that its storage
takes and no others, and its modifiers are given to it one kind after the other, so that none of
them is given twice. -/

/-- The arguments that a storage takes. -/
structure StorageArgs.Suits (args : StorageArgs) (storage : Storage) : Prop where
  length : args.length.isSome = true ↔ storage = .string ∨ storage = .char
  precision : args.precision.isSome = true ↔ storage = .decimal
  scale : args.scale.isSome = true ↔ storage = .decimal
  values : args.values ≠ [] → storage = .enumeration

instance (args : StorageArgs) (storage : Storage) : Decidable (args.Suits storage) :=
  decidable_of_iff (_ ∧ _ ∧ _ ∧ _)
    ⟨fun ⟨length, precision, scale, values⟩ => ⟨length, precision, scale, values⟩,
      fun suits => ⟨suits.length, suits.precision, suits.scale, suits.values⟩⟩

/-- The storages of numbers. -/
def Storage.numbers : List Storage :=
  [.increments, .bigIncrements, .tinyInteger, .smallInteger, .integer, .bigInteger,
    .unsignedInteger, .unsignedBigInteger, .float, .double, .decimal]

theorem Storage.mem_numbers {storage : Storage} (numeric : storage.isNumeric = true) :
    storage ∈ numbers := by
  cases storage <;> first | contradiction | decide

/-- The kinds of modifiers, in the order in which a column is given them. -/
def Modifier.place : Modifier → Nat
  | .primary => 0
  | .nullable => 1
  | .unsigned => 2
  | .unique => 3
  | .default _ => 4
  | .comment _ => 5

namespace Column

/-- The arguments are those of the storage, only numbers are unsigned, and of each kind there is at
most one modifier. -/
structure Renderable (column : Column) : Prop where
  args : column.args.Suits column.storage
  unsigned : .unsigned ∈ column.modifiers → column.storage ∈ Storage.numbers
  once : (column.modifiers.map Modifier.place).Nodup

/-- A column to be rendered that has been given its modifiers up to a kind. -/
structure UpTo (column : Column) (place : Nat) : Prop where
  args : column.args.Suits column.storage
  unsigned : .unsigned ∈ column.modifiers → column.storage ∈ Storage.numbers
  ordered : (column.modifiers.map Modifier.place).Pairwise (· < ·)
  before : ∀ modifier ∈ column.modifiers, modifier.place < place

variable {column : Column} {place : Nat}

@[simp] theorem storage_withModifierIf (column : Column) (condition : Bool) (modifier : Modifier) :
    (column.withModifierIf condition modifier).storage = column.storage := by
  cases condition <;> rfl

theorem UpTo.renderable (upTo : column.UpTo place) : column.Renderable where
  args := upTo.args
  unsigned := upTo.unsigned
  once := upTo.ordered.imp Nat.ne_of_lt

theorem upTo_unmodified {name : String} {storage : Storage} {args : StorageArgs}
    (suits : args.Suits storage) : UpTo { name, storage, args } 0 :=
  ⟨suits, by simp, by simp, by simp⟩

theorem UpTo.mono (upTo : column.UpTo place) {later : Nat} (le : place ≤ later) :
    column.UpTo later :=
  { upTo with before := fun modifier member => Nat.lt_of_lt_of_le (upTo.before modifier member) le }

theorem UpTo.withModifier (upTo : column.UpTo place) {modifier : Modifier}
    (next : place ≤ modifier.place)
    (numeric : modifier = .unsigned → column.storage ∈ Storage.numbers) :
    (column.withModifier modifier).UpTo (modifier.place + 1) where
  args := upTo.args
  unsigned member := by
    rcases List.mem_append.mp member with given | new
    · exact upTo.unsigned given
    · exact numeric (List.mem_singleton.mp new).symm
  ordered := by
    rw [Column.withModifier, List.map_append, List.pairwise_append]
    refine ⟨upTo.ordered, List.pairwise_singleton _ _, ?_⟩
    simp only [List.mem_map, List.mem_singleton, List.map_cons, List.map_nil]
    rintro _ ⟨earlier, member, rfl⟩ _ rfl
    exact Nat.lt_of_lt_of_le (upTo.before earlier member) next
  before earlier member := by
    rcases List.mem_append.mp member with given | new
    · have := upTo.before earlier given
      omega
    · rw [List.mem_singleton.mp new]
      exact Nat.lt_succ_self _

theorem UpTo.withModifierIf (upTo : column.UpTo place) (condition : Bool) (modifier : Modifier)
    (next : place ≤ modifier.place)
    (numeric : condition = true → modifier = .unsigned → column.storage ∈ Storage.numbers) :
    (column.withModifierIf condition modifier).UpTo (modifier.place + 1) := by
  rw [Column.withModifierIf]
  split
  case isTrue given => exact upTo.withModifier next (numeric given)
  case isFalse => exact upTo.mono (by omega)

theorem UpTo.withDefault? (upTo : column.UpTo place) (next : place ≤ 4) (value : Option Literal) :
    (column.withDefault? value).UpTo 5 := by
  cases value with
  | none => exact upTo.mono (by omega)
  | some value =>
      have given : (column.withModifier (.default value)).UpTo 5 :=
        upTo.withModifier next Modifier.noConfusion
      exact given

theorem UpTo.withComment? (upTo : column.UpTo place) (next : place ≤ 5) (text : Option String) :
    (column.withComment? text).UpTo 6 := by
  cases text with
  | none => exact upTo.mono (by omega)
  | some text =>
      have given : (column.withModifier (.comment text)).UpTo 6 :=
        upTo.withModifier next Modifier.noConfusion
      exact given

theorem renderable_single {name : String} {storage : Storage} {args : StorageArgs}
    {modifier : Modifier} (suits : args.Suits storage) (signed : modifier ≠ .unsigned) :
    Renderable { name, storage, args, modifiers := [modifier] } :=
  ⟨suits, by simp [signed.symm], by simp⟩

theorem Renderable.withoutPrimary (renderable : column.Renderable) :
    column.withoutPrimary.Renderable where
  args := renderable.args
  unsigned member := renderable.unsigned (List.mem_of_mem_filter member)
  once := renderable.once.sublist (List.filter_sublist.map _)

end Column

theorem ScalarType.suits_of_ofName {typeName : String} {hints : TypeHints} {stringLength : UInt32}
    {storage : Storage} {args : StorageArgs}
    (made : ofName typeName hints stringLength = .column storage args) : args.Suits storage := by
  have texts (length : UInt32) : StorageArgs.Suits { length := some length } .string := by
    constructor <;> simp
  have unsizedSuit : ∀ entry ∈ unsized, StorageArgs.Suits {} entry.1 := by decide
  rw [ofName] at made
  generalize String.ofList ((Text.trim typeName.toList).map Char.toLower) = lowered at made
  split at made
  case isTrue => simp at made
  case isFalse =>
    split at made
    case isTrue =>
      rcases made with ⟨⟩
      constructor <;> simp
    case isFalse =>
      split at made
      case isTrue =>
        rcases made with ⟨⟩
        constructor <;> simp
      case isFalse =>
        split at made <;> rcases made with ⟨⟩
        case h_1 names found => exact unsizedSuit _ (List.mem_of_find?_eq_some found)
        case h_2 => exact texts _

/-- All columns of a list can be rendered. -/
def RenderableColumns (columns : List Column) : Prop :=
  ∀ column ∈ columns, column.Renderable

namespace Context

variable (context : Context)

/-! ## Columns without a property -/

theorem renderable_keyColumn? {strategy : KeyStrategy} {column : Column}
    (made : context.keyColumn? strategy = some column) : column.Renderable := by
  cases strategy with
  | declared => contradiction
  | string =>
      rcases made with ⟨⟩
      exact Column.renderable_single (by constructor <;> simp) Modifier.noConfusion
  | _ =>
      rcases made with ⟨⟩
      exact Column.renderable_single (by decide) Modifier.noConfusion

theorem renderable_timestampColumns : RenderableColumns timestampColumns := by
  intro column member
  rcases List.mem_pair.mp member with rfl | rfl <;>
    exact Column.renderable_single (by decide) Modifier.noConfusion

theorem renderable_softDeleteColumn : softDeleteColumn.Renderable :=
  Column.renderable_single (by decide) Modifier.noConfusion

theorem renderable_optionColumns (options : TableOptions) :
    RenderableColumns (optionColumns options) := by
  intro column member
  rw [optionColumns, List.mem_append] at member
  rcases member with stamp | soft
  · split at stamp
    case isTrue => exact renderable_timestampColumns column stamp
    case isFalse => contradiction
  · split at soft
    case isTrue => exact List.mem_singleton.mp soft ▸ renderable_softDeleteColumn
    case isFalse => contradiction

theorem upTo_referenceColumn (name : String) (type : KeyType) :
    (context.referenceColumn name type).UpTo 0 := by
  cases type <;> refine Column.upTo_unmodified ?_ <;> constructor <;> simp

theorem upTo_stringColumn (name : String) : (context.stringColumn name).UpTo 0 :=
  Column.upTo_unmodified (by constructor <;> simp)

theorem upTo_enumColumn (name : String) (values : List String) : (enumColumn name values).UpTo 0 :=
  Column.upTo_unmodified (by constructor <;> simp)

theorem upTo_polymorphicIdColumn (name : String) (targets : List String) :
    (context.polymorphicIdColumn name targets).UpTo 0 := by
  rcases context.polymorphicIdColumn_cases name targets with ⟨type, _, _, made⟩ | ⟨_, made⟩
  · rw [made]
    exact context.upTo_referenceColumn name type
  · rw [made]
    exact Column.upTo_unmodified (by constructor <;> simp)

/-! ## Columns of properties -/

theorem renderable_annotated {column : Column} (upTo : column.UpTo 0) (nullable : Bool)
    (default : Option Literal) (comment : Option String) :
    (annotated column nullable default comment).Renderable := by
  have nulled := upTo.withModifierIf nullable .nullable (Nat.zero_le _) fun _ => Modifier.noConfusion
  exact ((nulled.withDefault? (by decide) default).withComment? (by decide) comment).renderable

theorem renderable_scalarColumn? {name : String} {scalar : Scalar} {comment : Option String}
    {column : Column} (made : context.scalarColumn? name scalar comment = some column) :
    column.Renderable := by
  rw [scalarColumn?] at made
  split at made
  case h_1 => contradiction
  case h_2 storage args named =>
    rw [← Option.some.inj made]
    have plain : Column.UpTo { name := Text.snakeCase name, storage, args } 0 :=
      Column.upTo_unmodified (ScalarType.suits_of_ofName named)
    have primary := plain.withModifierIf scalar.primary .primary (Nat.zero_le _)
      fun _ => Modifier.noConfusion
    have nullable := primary.withModifierIf scalar.nullable .nullable (by decide)
      fun _ => Modifier.noConfusion
    have unsigned := nullable.withModifierIf (scalar.unsigned = some true && storage.isNumeric)
      .unsigned (by decide) fun number _ => by
        simpa using Storage.mem_numbers (Bool.and_eq_true_iff.mp number).2
    have unique := unsigned.withModifierIf scalar.unique .unique (by decide)
      fun _ => Modifier.noConfusion
    exact ((unique.withDefault? (by decide) _).withComment? (by decide) _).renderable

theorem renderable_compoundColumns (name : String) (compound : CompoundType) (nullable : Bool)
    (overrides : Keyed FieldOverride) (comment : Option String) :
    RenderableColumns (context.compoundColumns name compound nullable overrides comment) := by
  intro column member
  rcases List.mem_filterMap.mp member with ⟨part, _, made⟩
  rw [compoundColumn?] at made
  split at made
  case h_1 =>
    rw [← Option.some.inj made]
    exact renderable_annotated (upTo_enumColumn _ _) _ _ _
  case h_2 =>
    dsimp only at made
    split at made
    case h_1 => contradiction
    case h_2 storage args named =>
      rw [← Option.some.inj made]
      exact renderable_annotated (Column.upTo_unmodified (ScalarType.suits_of_ofName named)) _ _ _

theorem renderable_plainColumns (name : String) (property : Property) :
    RenderableColumns (context.plainColumns name property) := by
  intro column member
  cases property with
  | scalar scalar =>
      rw [plainColumns] at member
      split at member
      case h_1 => exact context.renderable_compoundColumns _ _ _ _ _ column member
      case h_2 => exact context.renderable_scalarColumn? (Option.mem_toList.mp member)
  | enumeration enumeration =>
      rw [List.mem_singleton.mp member]
      exact renderable_annotated (upTo_enumColumn _ _) _ _ _
  | enumReference reference =>
      rw [List.mem_singleton.mp member]
      refine renderable_annotated ?_ _ _ _
      split
      case h_1 => exact upTo_enumColumn _ _
      case h_2 => exact context.upTo_stringColumn _
  | association association => contradiction
  | compound use =>
      rw [plainColumns] at member
      split at member
      case h_1 => exact context.renderable_compoundColumns _ _ _ _ _ column member
      case h_2 =>
        rw [List.mem_singleton.mp member]
        exact renderable_annotated (context.upTo_stringColumn _) _ _ _

theorem renderable_morphParts (entity table name : String) (association : Association) :
    RenderableColumns (context.morphParts entity table name association).columns := by
  intro column member
  have nulled {plain : Column} (upTo : plain.UpTo 0) (nullable : Bool) :
      (plain.withModifierIf nullable .nullable).Renderable :=
    (upTo.withModifierIf nullable .nullable (Nat.zero_le _) fun _ => Modifier.noConfusion).renderable
  rcases List.mem_pair.mp member with rfl | rfl
  · refine nulled ?_ _
    -- It does not matter where the targets come from, only whether there are any.
    generalize (if association.morphTargets.isEmpty then _ else _) = targets
    split
    case isTrue => exact context.upTo_stringColumn _
    case isFalse => exact upTo_enumColumn _ _
  · exact nulled (context.upTo_polymorphicIdColumn _ _) _

/-- Whatever kind of property the parts are made for. -/
theorem renderable_parts (entity table name : String) (property : Property) :
    RenderableColumns (context.parts entity table name property).columns := by
  intro column member
  cases property with
  | association association =>
      rw [parts, associationParts?] at member
      split at member
      case isTrue =>
        rw [List.mem_singleton.mp member]
        have primary := (context.upTo_referenceColumn (foreignKeyColumn name)
          (context.schema.keyTypeOf association.target)).withModifierIf association.primary .primary
            (Nat.zero_le _) fun _ => Modifier.noConfusion
        have nullable := primary.withModifierIf association.isNullable .nullable (by decide)
          fun _ => Modifier.noConfusion
        exact (nullable.withComment? (by decide) _).renderable
      case isFalse =>
        split at member
        case isTrue => exact context.renderable_morphParts _ _ _ _ column member
        case isFalse => contradiction
  | scalar scalar => exact context.renderable_plainColumns name (.scalar scalar) column member
  | enumeration use => exact context.renderable_plainColumns name (.enumeration use) column member
  | enumReference use =>
      exact context.renderable_plainColumns name (.enumReference use) column member
  | compound use => exact context.renderable_plainColumns name (.compound use) column member

theorem renderable_build (entity : Entity) : RenderableColumns (context.build entity).columns := by
  refine context.forall_mem_build Column.Renderable ?_ fun _ => .withoutPrimary
  intro source isSource
  rcases context.mem_sourceColumns.mp isSource with key | ⟨entry, _, isPart⟩ | option
  · exact context.renderable_keyColumn? key
  · exact context.renderable_parts _ _ _ _ source isPart
  · exact renderable_optionColumns _ source option

end Context

end Migration
