import Migration.Proofs.Blueprint.DeclaredKey
import Migration.Proofs.Blueprint.References

namespace Migration

/-! References to an entity whose key is the column of a single property. They lead to that column,
and yet they are kept as references to keys that no property declares: as wide integers. -/

/-! ## Storages -/

namespace Storage

/-- How a column is stored that refers to one of the storage. A reference to an integer has no
sign, as far as there is a storage of that width without one. -/
def referring : Storage → Storage
  | .increments | .integer => .unsignedInteger
  | .bigIncrements | .bigInteger => .unsignedBigInteger
  | storage => storage

def isWideInteger (storage : Storage) : Bool :=
  [.bigIncrements, .bigInteger, .unsignedBigInteger].contains storage

theorem referring_eq_unsignedBigInteger_iff (storage : Storage) :
    storage.referring = .unsignedBigInteger ↔ storage.isWideInteger = true := by
  cases storage <;> decide

end Storage

/-- The column can refer to the key, for its values are stored as those of the key are. -/
def Column.KeptAs (column key : Column) : Prop :=
  column.stored = (key.storage.referring, key.args)

instance (column key : Column) : Decidable (column.KeptAs key) :=
  inferInstanceAs (Decidable (_ = _))

/-- A wide integer is given no size. -/
theorem ScalarType.args_of_isWideInteger {typeName : String} {hints : TypeHints}
    {stringLength : UInt32} {storage : Storage} {args : StorageArgs}
    (made : ofName typeName hints stringLength = .column storage args)
    (wide : storage.isWideInteger = true) : args = {} := by
  rw [ofName] at made
  generalize String.ofList ((Text.trim typeName.toList).map Char.toLower) = lowered at made
  split at made
  case isTrue => simp at made
  case isFalse =>
    split at made
    case isTrue =>
      rcases made with ⟨⟩
      exact absurd wide (by decide)
    case isFalse =>
      split at made
      case isTrue =>
        rcases made with ⟨⟩
        exact absurd wide (by decide)
      case isFalse =>
        split at made <;> rcases made with ⟨⟩
        case h_1 => rfl
        case h_2 => exact absurd wide (by decide)

/-- The parts are a column and a foreign key over it, which leads to the key of the table. -/
structure Parts.RefersBy (parts : Parts) (column : Column) (table : String) (key : Column) :
    Prop where
  columns : parts.columns = [column]
  foreignKey : ∃ foreignKey, parts.foreignKeys = [foreignKey]
    ∧ foreignKey.columns = [column.name] ∧ foreignKey.referencedTable = table
    ∧ foreignKey.referencedColumn = key.name

namespace Context

variable {context : Context}

/-! ## The key of the other table -/

section Key

variable {entity : Entity} {name : String} {property : Property} {key : Column}

theorem args_referenceColumn_of_isWideInteger {type : KeyType}
    (wide : (context.referenceColumn name type).storage.isWideInteger = true) :
    (context.referenceColumn name type).args = {} := by
  cases type with
  | string => contradiction
  | _ => rfl

theorem args_of_isWideInteger (member : key ∈ (context.ownParts entity name property).columns)
    (marked : key.isPrimary = true) (wide : key.storage.isWideInteger = true) :
    key.args = {} := by
  have keeps := keepsKey_of_isPrimary member marked
  cases property with
  | scalar scalar =>
      change key ∈ context.plainColumns name (.scalar scalar) at member
      rw [plainColumns] at member
      split at member
      case h_1 =>
        rw [context.isPrimary_compoundColumns member] at marked
        contradiction
      case h_2 =>
        rw [Option.mem_toList, scalarColumn?] at member
        split at member
        case h_1 => simp at member
        case h_2 storage args made =>
          have stored : key.stored = (storage, args) := by
            rw [← Option.some.inj member]
            simp only [Column.stored_withModifierIf, Column.stored_withDefault?,
              Column.stored_withComment?]
            rfl
          rcases Prod.ext_iff.mp stored with ⟨rfl, rfl⟩
          exact ScalarType.args_of_isWideInteger made wide
  | association association =>
      have materializes : association.materializesColumn = true := keeps
      rw [ownParts, parts, associationParts?, if_pos materializes] at member
      have stored := context.stored_of_mem_foreignKeyParts member
      rcases Prod.ext_iff.mp stored with ⟨storage, args⟩
      change key.storage = _ at storage
      rw [storage] at wide
      exact args.trans (args_referenceColumn_of_isWideInteger wide)
  | _ => contradiction

/-- A declared key of one column is the column of a property. -/
theorem exists_entry_of_build_primaryKey (declared : entity.key = .declared)
    (member : key ∈ (context.build entity).columns)
    (isKey : (context.build entity).primaryKey = [key.name]) :
    ∃ entry ∈ entity.properties, key ∈ (context.ownParts entity entry.1 entry.2).columns
      ∧ key.isPrimary = true := by
  rcases drafted_of_build_primaryKey member isKey with ⟨drafted, marked⟩
  rw [draftOf_columns_of_declared declared, startDraft_columns, declared] at drafted
  have given := ByKey.addAll_subset _ _ _ drafted
  rcases List.mem_flatMap.mp given with ⟨parts, isPart, own⟩
  rcases context.mem_propertyParts.mp isPart with ⟨entry, isEntry, rfl⟩
  exact ⟨entry, isEntry, own, marked⟩

end Key

/-! ## The reference to it -/

section Reference

variable {association : Association} {target : Entity} {property : String} {key : Column}
  (known : context.schema.entity? association.target = some target)
  (declared : target.key = .declared) (single : target.primaryProperties = [property])

include known declared

theorem keyTypeOf_of_declared : context.schema.keyTypeOf association.target = .bigInt := by
  rw [Schema.keyTypeOf, known, Option.bind_some, declared]
  rfl

variable (distinct : target.properties.keys.Nodup)
  (member : key ∈ (context.build target).columns)
  (isKey : (context.build target).primaryKey = [key.name])

include single distinct member isKey

theorem referencedColumn_eq_of_declared :
    context.schema.referencedColumn association.target = key.name := by
  rcases exists_entry_of_build_primaryKey declared member isKey with ⟨entry, isEntry, own, marked⟩
  have flagged : entry.2.isPrimary = true := context.flagged_of_isPrimary own marked
  have only : entry.1 = property := by
    rw [← List.mem_singleton, ← single]
    exact List.mem_map_of_mem (List.mem_filter.mpr ⟨isEntry, flagged⟩)
  have name := name_eq_physicalColumn (Keyed.get?_of_mem distinct isEntry) own
    (keepsKey_of_isPrimary own marked)
  rw [Schema.referencedColumn, known]
  dsimp only
  rw [if_pos declared, single, name, only]

/-- An association to one refers to the declared key of its target, which is the column of a single
property, and is kept as that key exactly if the key is a wide integer. -/
theorem exists_refersBy_and_keptAs_iff (materializes : association.materializesColumn = true)
    (entity table name : String) :
    ∃ column, (context.parts entity table name (.association association)).RefersBy column
        target.table key
      ∧ (column.KeptAs key ↔ key.storage.isWideInteger = true) := by
  have parts : context.parts entity table name (.association association) =
      context.foreignKeyParts table name association := by
    rw [Context.parts, associationParts?, if_pos materializes]
    rfl
  have leads : context.schema.tableOf association.target = target.table := by
    rw [Schema.tableOf, known]
  have referenced := referencedColumn_eq_of_declared known declared single distinct member isKey
  rcases List.length_eq_one_iff.mp
    (rfl : (context.foreignKeyParts table name association).columns.length = 1) with
    ⟨column, columns⟩
  have stored := context.stored_of_mem_foreignKeyParts (columns ▸ List.mem_singleton_self column)
  rw [keyTypeOf_of_declared known declared] at stored
  have named : column.name = foreignKeyColumn name := by
    have keys := context.keys_foreignKeyParts table name association
    rw [columns] at keys
    exact List.singleton_inj.mp keys
  refine ⟨column, ?_, ?_⟩
  · rw [parts]
    exact ⟨columns, _, rfl, by rw [named]; rfl, leads, referenced⟩
  · rcases exists_entry_of_build_primaryKey declared member isKey with ⟨_, _, own, marked⟩
    rw [Column.KeptAs, stored, ← Storage.referring_eq_unsignedBigInteger_iff]
    constructor
    · intro same
      exact (Prod.ext_iff.mp same).1.symm
    · intro wide
      rw [wide, args_of_isWideInteger own marked
        ((Storage.referring_eq_unsignedBigInteger_iff _).mp wide)]
      rfl

end Reference

/-! A profile is known by its user, and so is a badge by the profile that it is shown on. -/

def profile : Entity where
  name := "Profile"
  properties := [
    ("user", .association { relation := .oneToOne, target := "User", primary := true }),
    ("motto", .scalar { typeName := "string" })]
  options := { key := .declared }

def profileContext : Context :=
  .ofSettings { entities := [("User", { name := "User" }), ("Profile", profile)] } {}

def profileKey : Column :=
  { name := "user_id", storage := .unsignedBigInteger, modifiers := [.primary] }

def shownOnProfile : Association :=
  { relation := .manyToOne, target := "Profile" }

theorem profile_keptAs :
    profileContext.schema.entity? shownOnProfile.target = some profile
      ∧ profile.key = .declared ∧ profile.primaryProperties = ["user"]
      ∧ profile.properties.keys.Nodup ∧ profileKey ∈ (profileContext.build profile).columns
      ∧ (profileContext.build profile).primaryKey = [profileKey.name]
      ∧ shownOnProfile.materializesColumn = true
      ∧ ∃ column, (profileContext.parts "Badge" "badges" "profile"
          (.association shownOnProfile)).RefersBy column "profiles" profileKey
        ∧ column.KeptAs profileKey := by
  have known : profileContext.schema.entity? shownOnProfile.target = some profile := rfl
  have declared : profile.key = .declared := rfl
  have single : profile.primaryProperties = ["user"] := rfl
  have distinct : profile.properties.keys.Nodup := by decide
  have member : profileKey ∈ (profileContext.build profile).columns := by decide +kernel
  have isKey : (profileContext.build profile).primaryKey = [profileKey.name] := by decide +kernel
  rcases exists_refersBy_and_keptAs_iff known declared single distinct member isKey rfl
    "Badge" "badges" "profile" with ⟨column, refers, kept⟩
  exact ⟨known, declared, single, distinct, member, isKey, rfl, column, refers, kept.mpr rfl⟩

/-! A currency is known by a code of three letters. -/

def currency : Entity where
  name := "Currency"
  properties := [
    ("code", .scalar { typeName := "char", hints := { length := some 3 }, primary := true }),
    ("name", .scalar { typeName := "string" })]
  options := { key := .declared }

def currencyContext : Context :=
  .ofSettings { entities := [("Currency", currency)] } {}

def currencyKey : Column :=
  { name := "code", storage := .char, args := { length := some 3 }, modifiers := [.primary] }

def inCurrency : Association :=
  { relation := .manyToOne, target := "Currency" }

/-- The column of a price that refers to the code of its currency is a number. -/
theorem currency_not_keptAs :
    currencyContext.schema.entity? inCurrency.target = some currency
      ∧ currency.key = .declared ∧ currency.primaryProperties = ["code"]
      ∧ currency.properties.keys.Nodup ∧ currencyKey ∈ (currencyContext.build currency).columns
      ∧ (currencyContext.build currency).primaryKey = [currencyKey.name]
      ∧ inCurrency.materializesColumn = true
      ∧ ∃ column ∈ (currencyContext.parts "Price" "prices" "currency"
          (.association inCurrency)).columns,
        ¬column.KeptAs currencyKey := by
  refine ⟨rfl, rfl, rfl, by decide, by decide +kernel, by decide +kernel, rfl, ?_⟩
  decide +kernel

end Context

end Migration
