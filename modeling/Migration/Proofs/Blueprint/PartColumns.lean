import Migration.Proofs.Operation.Restoring

namespace Migration

/-! What all parts of a property have in common, whatever the kind of the property. Their columns
are named by a stem with one ending for each, and only the stem follows the name of the property.
Their constraints are over these columns, and there is at most one of each kind. -/

namespace Column

@[simp] theorem renamed_name (column : Column) (name : String) :
    (column.renamed name).name = name := rfl

@[simp] theorem renamed_renamed (column : Column) (first second : String) :
    (column.renamed first).renamed second = column.renamed second := rfl

@[simp] theorem withModifierIf_renamed (column : Column) (name : String) (condition : Bool)
    (modifier : Modifier) :
    (column.renamed name).withModifierIf condition modifier =
      (column.withModifierIf condition modifier).renamed name := by
  cases condition <;> rfl

@[simp] theorem withDefault?_renamed (column : Column) (name : String) (value : Option Literal) :
    (column.renamed name).withDefault? value = (column.withDefault? value).renamed name := by
  cases value <;> rfl

@[simp] theorem withComment?_renamed (column : Column) (name : String) (text : Option String) :
    (column.renamed name).withComment? text = (column.withComment? text).renamed name := by
  cases text <;> rfl

@[simp] theorem withModifierIf_name (column : Column) (condition : Bool) (modifier : Modifier) :
    (column.withModifierIf condition modifier).name = column.name := by
  cases condition <;> rfl

@[simp] theorem withDefault?_name (column : Column) (value : Option Literal) :
    (column.withDefault? value).name = column.name := by
  cases value <;> rfl

@[simp] theorem withComment?_name (column : Column) (text : Option String) :
    (column.withComment? text).name = column.name := by
  cases text <;> rfl

end Column

/-- The columns that templates become under a stem; the name of a template is the ending. -/
def columnsUnder (stem : String) (templates : List Column) : List Column :=
  templates.map fun template => template.renamed (stem ++ template.name)

theorem keys_columnsUnder (stem : String) (templates : List Column) :
    ByKey.keys Column.name (columnsUnder stem templates) =
      (templates.map (·.name)).map (stem ++ ·) := by
  simp [ByKey.keys, columnsUnder, Function.comp_def]

/-- The association looks for the tables at its other end by its own name. -/
def Association.discoversTargets (association : Association) : Bool :=
  association.relation = .morphTo && association.morphName.isNone
    && association.morphTargets.isEmpty

/-- What the property leads to is the same under both names. -/
def Context.KeepsTargets (context : Context) (entity source target : String) : Property → Prop
  | .association association =>
      association.discoversTargets = true →
        context.discoveredTargets entity (Text.snakeCase source) =
          context.discoveredTargets entity (Text.snakeCase target)
  | _ => True

instance (context : Context) (entity source target : String) (property : Property) :
    Decidable (context.KeepsTargets entity source target property) :=
  match property with
  | .association _ => inferInstanceAs (Decidable (_ → _))
  | .scalar _ | .enumeration _ | .enumReference _ | .compound _ => .isTrue trivial

namespace Context

variable (context : Context)

@[simp] theorem annotated_name (column : Column) (nullable : Bool) (default : Option Literal)
    (comment : Option String) : (annotated column nullable default comment).name = column.name := by
  simp [annotated]

@[simp] theorem annotated_renamed (column : Column) (name : String) (nullable : Bool)
    (default : Option Literal) (comment : Option String) :
    annotated (column.renamed name) nullable default comment =
      (annotated column nullable default comment).renamed name := by
  simp [annotated]

theorem enumColumn_eq_renamed (name : String) (values : List String) :
    enumColumn name values = (enumColumn "" values).renamed name := rfl

theorem stringColumn_eq_renamed (name : String) :
    context.stringColumn name = (context.stringColumn "").renamed name := rfl

theorem referenceColumn_eq_renamed (name : String) (key : KeyType) :
    context.referenceColumn name key = (context.referenceColumn "" key).renamed name := by
  cases key <;> rfl

theorem polymorphicIdColumn_eq_renamed (name : String) (targets : List String) :
    context.polymorphicIdColumn name targets =
      (context.polymorphicIdColumn "" targets).renamed name := by
  unfold polymorphicIdColumn
  dsimp only
  split
  case isTrue =>
    cases (targets.map context.schema.keyTypeOf).head?.getD .bigInt <;> rfl
  case isFalse => rfl

@[simp] theorem referenceColumn_name (name : String) (key : KeyType) :
    (context.referenceColumn name key).name = name := by
  rw [referenceColumn_eq_renamed, Column.renamed_name]

theorem scalarColumn?_eq_renamed (name : String) (scalar : Scalar) (comment : Option String) :
    context.scalarColumn? name scalar comment =
      (context.scalarColumn? "" scalar comment).map (·.renamed (Text.snakeCase name)) := by
  unfold scalarColumn?
  split
  case h_1 => rfl
  case h_2 storage args _ =>
    have bare : ({ name := Text.snakeCase name, storage, args } : Column) =
      ({ name := Text.snakeCase "", storage, args } : Column).renamed (Text.snakeCase name) := rfl
    simp [bare]

/-- The column of a field without its stem. -/
theorem compoundColumn?_eq_renamed (stem : String) (nullable : Bool) (override : FieldOverride)
    (comment : Option String) (part : CompoundField) :
    context.compoundColumn? stem nullable override comment part =
      (context.compoundColumn? "" nullable override comment part).map fun column =>
        column.renamed (stem ++ column.name) := by
  have name : stem ++ "_" ++ part.suffix = stem ++ ("_" ++ part.suffix) := String.append_assoc
  have bareName : "" ++ "_" ++ part.suffix = "_" ++ part.suffix := by rw [String.empty_append]
  unfold compoundColumn?
  simp only [name, bareName]
  split
  case h_1 values _ =>
    rw [enumColumn_eq_renamed (stem ++ _)]
    simp [enumColumn_eq_renamed ("_" ++ _)]
  case h_2 =>
    split
    case h_1 => rfl
    case h_2 storage args _ =>
      have bare : ({ name := stem ++ ("_" ++ part.suffix), storage, args } : Column) =
        ({ name := "_" ++ part.suffix, storage, args } : Column).renamed
          (stem ++ ("_" ++ part.suffix)) := rfl
      simp [bare]

theorem columnsUnder_single (stem : String) (column : Column) :
    columnsUnder stem [column.renamed ""] = [column.renamed stem] := by
  simp [columnsUnder]

/-- A single column of which nothing but the name follows the stem. -/
theorem annotated_eq_columnsUnder (bare : Column) (nullable : Bool) (default : Option Literal)
    (comment : Option String) (stem : String) :
    [annotated (bare.renamed stem) nullable default comment] =
      columnsUnder stem [(annotated bare nullable default comment).renamed ""] := by
  rw [columnsUnder_single, annotated_renamed]

theorem compoundColumns_eq_columnsUnder (name : String) (compound : CompoundType)
    (nullable : Bool) (overrides : Keyed FieldOverride) (comment : Option String) :
    context.compoundColumns name compound nullable overrides comment =
      columnsUnder (Text.snakeCase name) (compound.fields.filterMap fun part =>
        context.compoundColumn? "" nullable ((overrides.get? part.suffix).getD {}) comment
          part) := by
  rw [compoundColumns, columnsUnder, List.map_filterMap]
  congr 1
  funext part
  exact context.compoundColumn?_eq_renamed ..

theorem exists_plainColumns_templates (property : Property) : ∃ templates, ∀ name,
    context.plainColumns name property = columnsUnder (Text.snakeCase name) templates := by
  cases property with
  | scalar scalar =>
      unfold plainColumns
      dsimp only
      split
      case h_1 compound _ => exact ⟨_, fun name => context.compoundColumns_eq_columnsUnder ..⟩
      case h_2 =>
        let comment := context.comment? (.scalar scalar)
        refine ⟨((context.scalarColumn? "" scalar comment).map (·.renamed "")).toList,
          fun name => ?_⟩
        rw [scalarColumn?_eq_renamed]
        cases context.scalarColumn? "" scalar comment with
        | none => rfl
        | some column => exact (columnsUnder_single _ column).symm
  | enumeration enumeration =>
      exact ⟨_, fun name => annotated_eq_columnsUnder (enumColumn "" enumeration.values) _ _ _ _⟩
  | enumReference reference =>
      unfold plainColumns
      dsimp only
      split
      case h_1 values _ =>
        exact ⟨_, fun name => annotated_eq_columnsUnder (enumColumn "" values) _ _ _ _⟩
      case h_2 =>
        exact ⟨_, fun name => annotated_eq_columnsUnder (context.stringColumn "") _ _ _ _⟩
  | association association => exact ⟨[], fun _ => rfl⟩
  | compound use =>
      unfold plainColumns
      dsimp only
      split
      case h_1 compound _ => exact ⟨_, fun name => context.compoundColumns_eq_columnsUnder ..⟩
      case h_2 =>
        exact ⟨_, fun name => annotated_eq_columnsUnder (context.stringColumn "") _ _ _ _⟩

theorem exists_foreignKey_template (association : Association) : ∃ template : Column,
    ∀ table name, (context.foreignKeyParts table name association).columns =
      columnsUnder (foreignKeyColumn name) [template] := by
  let comment := if context.settings.comments then
    association.caption.map (·.resolve context.locales) else none
  refine ⟨((((context.referenceColumn "" (context.schema.keyTypeOf
    association.target)).withModifierIf association.primary .primary).withModifierIf
    association.isNullable .nullable).withComment? comment).renamed "", fun table name => ?_⟩
  rw [columnsUnder_single, foreignKeyParts, referenceColumn_eq_renamed]
  simp [comment]

/-- The entities that a polymorphic association may lead to. -/
def morphTargetsOf (entity name : String) (association : Association) : List String :=
  if association.morphTargets.isEmpty then
    context.discoveredTargets entity (morphName name association)
  else association.morphTargets

/-- The two columns of a polymorphic association without the relation name. -/
def morphTemplates (association : Association) (targets : List String) : List Column :=
  let nullable := association.nullable ≠ some false
  let typeColumn :=
    if targets.isEmpty then context.stringColumn "_type" else enumColumn "_type" targets
  [typeColumn.withModifierIf nullable .nullable,
    (context.polymorphicIdColumn "_id" targets).withModifierIf nullable .nullable]

@[simp] theorem polymorphicIdColumn_name (name : String) (targets : List String) :
    (context.polymorphicIdColumn name targets).name = name := by
  rw [polymorphicIdColumn_eq_renamed, Column.renamed_name]

theorem morphTemplates_names (association : Association) (targets : List String) :
    (context.morphTemplates association targets).map (·.name) = ["_type", "_id"] := by
  unfold morphTemplates
  dsimp only
  split <;> simp [stringColumn, enumColumn]

theorem morphParts_columns (entity table name : String) (association : Association) :
    (context.morphParts entity table name association).columns =
      columnsUnder (morphName name association)
        (context.morphTemplates association (context.morphTargetsOf entity name association)) := by
  rw [morphParts, morphTemplates, columnsUnder, ← morphTargetsOf]
  dsimp only
  rw [polymorphicIdColumn_eq_renamed _ (morphName name association ++ "_id"),
    polymorphicIdColumn_eq_renamed _ "_id"]
  split
  case isTrue =>
    rw [stringColumn_eq_renamed _ (morphName name association ++ "_type"),
      stringColumn_eq_renamed _ "_type"]
    simp
  case isFalse =>
    rw [enumColumn_eq_renamed (morphName name association ++ "_type"),
      enumColumn_eq_renamed "_type"]
    simp

/-- The possible types of a row at the other end are written down with the column for the type. -/
theorem exists_morphTemplates (association : Association) (targets : List String) :
    ∃ type key, context.morphTemplates association targets = [type, key]
      ∧ type.name = "_type" ∧ key.name = "_id" ∧ type.args.values = targets := by
  have kept (column : Column) (condition : Bool) :
      (column.withModifierIf condition .nullable).args = column.args := by
    cases condition <;> rfl
  refine ⟨_, _, rfl, ?_, by simp, ?_⟩
  · split <;> simp [stringColumn, enumColumn]
  · split
    case isTrue empty => simp [kept, stringColumn, List.isEmpty_iff.mp empty]
    case isFalse => simp [kept, enumColumn]

/-- Unless the targets are discovered, they are those of the list or of the relation name, whatever
the property is called. -/
theorem morphTargetsOf_eq {association : Association} (morph : association.relation = .morphTo)
    {entity source target : String}
    (keeps : context.KeepsTargets entity source target (.association association)) :
    context.morphTargetsOf entity source association =
      context.morphTargetsOf entity target association := by
  unfold morphTargetsOf
  split
  case isTrue listless =>
    cases given : association.morphName with
    | none =>
        have discovers : association.discoversTargets = true := by
          simp [Association.discoversTargets, morph, listless, given]
        simpa [morphName, given] using keeps discovers
    | some relation => simp [morphName, given]
  case isFalse => rfl

end Context

/-! ## Stems -/

/-- Columns that follow a name by a stem: under every name the same endings stand after it. -/
structure FollowStem (columns : String → List Column) (stem : String → String)
    (templates : String → List Column) : Prop where
  columns : ∀ name, columns name = columnsUnder (stem name) (templates name)
  endings : ∀ left right, (templates left).map (·.name) = (templates right).map (·.name)

theorem FollowStem.names {columns : String → List Column} {stem : String → String}
    {templates : String → List Column} (follows : FollowStem columns stem templates)
    (source name : String) : ByKey.keys Column.name (columns name) =
      ((templates source).map (·.name)).map (stem name ++ ·) := by
  rw [follows.columns name, follows.endings source name, keys_columnsUnder]

/-- What the names of the columns start with under a name of the property. -/
def Property.stem : Property → String → String
  | association value, name =>
      if value.materializesColumn then foreignKeyColumn name else morphName name value
  | _, name => Text.snakeCase name

namespace Context

variable (context : Context)

theorem followStem_morph (entity table : String) {association : Association}
    (morph : association.relation = .morphTo) :
    FollowStem (fun name => (context.parts entity table name (.association association)).columns)
      (fun name => morphName name association)
      (fun name => context.morphTemplates association
        (context.morphTargetsOf entity name association)) where
  columns name := by
    have noColumn : ¬association.materializesColumn = true := by
      simp [Association.materializesColumn, Relation.isToOne, morph]
    rw [parts, associationParts?, if_neg noColumn, if_pos morph]
    exact context.morphParts_columns entity table name association
  endings left right := by
    rw [morphTemplates_names, morphTemplates_names]

/-- A property has the same columns under two names but for the stem of their names, unless it
discovers other targets by the one than by the other. -/
theorem exists_followStem (entity table : String) (property : Property) : ∃ templates,
    FollowStem (fun name => (context.parts entity table name property).columns) property.stem
        templates ∧
      ∀ source target, context.KeepsTargets entity source target property →
        templates source = templates target := by
  rcases context.exists_plainColumns_templates property with ⟨plainTemplates, plainColumns⟩
  cases property with
  | association association =>
      by_cases materializes : association.materializesColumn = true
      · have stem : (Property.association association).stem = foreignKeyColumn :=
          funext fun _ => if_pos materializes
        rcases context.exists_foreignKey_template association with ⟨template, columns⟩
        rw [stem]
        refine ⟨fun _ => [template], ⟨fun name => ?_, fun _ _ => rfl⟩, fun _ _ _ => rfl⟩
        rw [parts, associationParts?, if_pos materializes]
        exact columns table name
      · have stem : (Property.association association).stem = fun name =>
            morphName name association := funext fun _ => if_neg materializes
        rw [stem]
        by_cases morph : association.relation = .morphTo
        · refine ⟨_, context.followStem_morph entity table morph, fun source target keeps => ?_⟩
          exact congrArg _ (context.morphTargetsOf_eq morph keeps)
        · refine ⟨fun _ => [], ⟨fun name => ?_, fun _ _ => rfl⟩, fun _ _ _ => rfl⟩
          rw [parts, associationParts?, if_neg materializes, if_neg morph]
          rfl
  | _ => exact ⟨fun _ => plainTemplates, ⟨plainColumns, fun _ _ => rfl⟩, fun _ _ _ => rfl⟩

/-! ## Constraints -/

end Context

/-- Every constraint is over columns that belong to the parts. -/
structure Parts.Grounded (parts : Parts) : Prop where
  foreignKeys : ∀ foreignKey ∈ parts.foreignKeys, ∀ name ∈ foreignKey.columns,
    name ∈ ByKey.keys Column.name parts.columns
  indexes : ∀ index ∈ parts.indexes, ∀ name ∈ index.columns,
    name ∈ ByKey.keys Column.name parts.columns

/-- Parts with at most one constraint of each kind, all over their own columns. -/
structure Parts.Modest (parts : Parts) : Prop extends parts.Grounded where
  foreignKeyCount : parts.foreignKeys.length ≤ 1
  indexCount : parts.indexes.length ≤ 1

theorem Parts.Modest.unambiguous {parts : Parts} (modest : parts.Modest) : parts.Unambiguous where
  foreignKeys := ByKey.single_of_length_le_one _ modest.foreignKeyCount
  indexes := ByKey.single_of_length_le_one _ modest.indexCount

namespace Context

variable (context : Context)

theorem plainParts_modest (table name : String) (property : Property) :
    (context.plainParts table name property).Modest := by
  unfold plainParts
  dsimp only
  split
  case h_1 column single =>
    rw [single]
    split
    case isTrue => exact ⟨⟨by simp, by simp [Index.onColumns]⟩, by simp, by simp⟩
    case isFalse => exact ⟨⟨by simp, by simp⟩, by simp, by simp⟩
  case h_2 => exact ⟨⟨by simp, by simp⟩, by simp, by simp⟩

theorem keys_foreignKeyParts (table name : String) (association : Association) :
    ByKey.keys Column.name (context.foreignKeyParts table name association).columns =
      [foreignKeyColumn name] := by
  simp [foreignKeyParts]

theorem foreignKeyParts_modest (table name : String) (association : Association) :
    (context.foreignKeyParts table name association).Modest := by
  refine ⟨⟨?_, ?_⟩, by simp [foreignKeyParts], by simp [foreignKeyParts]⟩
  · rw [keys_foreignKeyParts]
    simp [foreignKeyParts, ForeignKey.onColumn]
  · rw [keys_foreignKeyParts]
    simp [foreignKeyParts, Index.onColumns]

theorem keys_morphParts (entity table name : String) (association : Association) :
    ByKey.keys Column.name (context.morphParts entity table name association).columns =
      [morphName name association ++ "_type", morphName name association ++ "_id"] := by
  rw [morphParts_columns, keys_columnsUnder, morphTemplates_names]
  rfl

theorem morphParts_modest (entity table name : String) (association : Association) :
    (context.morphParts entity table name association).Modest := by
  refine ⟨⟨by simp [morphParts], ?_⟩, by simp [morphParts], by simp [morphParts]⟩
  rw [keys_morphParts]
  simp [morphParts, Index.onColumns]

/-- Whatever its kind, a property has at most one foreign key and one index, over its own
columns. -/
theorem parts_modest (entity table name : String) (property : Property) :
    (context.parts entity table name property).Modest := by
  cases property with
  | association association =>
      rw [parts, associationParts?]
      split
      case isTrue => exact context.foreignKeyParts_modest table name association
      case isFalse =>
        split
        case isTrue => exact context.morphParts_modest entity table name association
        case isFalse => exact ⟨⟨by simp, by simp⟩, by simp, by simp⟩
  | _ => exact context.plainParts_modest table name _

end Context

end Migration
