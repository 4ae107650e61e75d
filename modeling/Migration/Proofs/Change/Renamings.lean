import Mathlib.Data.List.Flatten
import Migration.Proofs.Change.RoundTrip

namespace Migration

/-! The columns that a change renames. Every column that a renamed property has under another name
than before is renamed, and that is all, if the property has columns at all and their names do
change. -/

section FlatMap

variable {α β : Type} {values : List α} {part whole : α → List β}

/-- Where every list is part of another, all of them together are as much as all of the others only
if each is the whole. -/
theorem flatMap_perm_iff (sublist : ∀ value ∈ values, (part value).Sublist (whole value)) :
    (values.flatMap whole).Perm (values.flatMap part) ↔
      ∀ value ∈ values, whole value = part value := by
  constructor
  · intro perm
    have same := (List.Sublist.flatMap_right values sublist).eq_of_length perm.length_eq.symm
    clear perm
    induction values with
    | nil => simp
    | cons value rest induction =>
        have ⟨first, later⟩ := List.forall_mem_cons.mp sublist
        rw [List.flatMap_cons, List.flatMap_cons] at same
        have firstLength := first.length_le
        have laterLength := (List.Sublist.flatMap_right rest later).length_le
        have lengths := congrArg List.length same
        rw [List.length_append, List.length_append] at lengths
        have ⟨firstSame, laterSame⟩ := List.append_inj same (by omega)
        exact List.forall_mem_cons.mpr ⟨firstSame.symm, induction later laterSame⟩
  · intro same
    rw [List.flatMap_congr same]

end FlatMap

/-! ## Operations -/

namespace Operation

/-- The column that is renamed, and its new name. -/
def renaming? : Operation → Option (String × String)
  | .renameColumn source target => some (source, target)
  | _ => none

def renamings (operations : List Operation) : List (String × String) :=
  operations.filterMap renaming?

@[simp] theorem renamings_append (first second : List Operation) :
    renamings (first ++ second) = renamings first ++ renamings second :=
  List.filterMap_append

theorem renamings_map_eq_nil {α : Type} {values : List α} {operation : α → Operation}
    (never : ∀ value, (operation value).renaming? = none) :
    renamings (values.map operation) = [] := by
  simp [renamings, never]

@[simp] theorem renamings_renaming (pairs : List (String × String)) :
    renamings (pairs.map fun pair => .renameColumn pair.1 pair.2) = pairs := by
  simp [renamings, List.filterMap_map, Function.comp_def, renaming?]

@[simp] theorem renamings_creating (parts : Parts) : renamings parts.creating = [] := by
  simp only [Parts.creating, renamings_append]
  rw [renamings_map_eq_nil fun _ => rfl, renamings_map_eq_nil fun _ => rfl,
    renamings_map_eq_nil fun _ => rfl]
  rfl

@[simp] theorem renamings_dropping (parts : Parts) : renamings parts.dropping = [] := by
  simp only [Parts.dropping, renamings_append]
  rw [renamings_map_eq_nil fun _ => rfl, renamings_map_eq_nil fun _ => rfl,
    renamings_map_eq_nil fun _ => rfl]
  rfl

@[simp] theorem renamings_reshaping (old new : Parts) : renamings (old.reshaping new) = [] := by
  simp only [Parts.reshaping, renamings_append]
  rw [renamings_map_eq_nil fun _ => rfl, renamings_map_eq_nil fun _ => rfl,
    renamings_map_eq_nil fun _ => rfl, renamings_map_eq_nil fun _ => rfl,
    renamings_map_eq_nil fun _ => rfl, renamings_map_eq_nil fun _ => rfl]
  rfl

end Operation

namespace Context

open Operation (renamings)

section

variable (context : Context) (change : EntityChange)

/-- The columns that a change of a property renames. -/
def renamingsAt : PropertyChange → List (String × String)
  | .renamed source target previous current => context.pairsOf change source target previous current
  | _ => []

/-! ## What is renamed -/

theorem renamings_property (record : PropertyChange) :
    renamings (context.stepGroup change (.property record)).forward =
      context.renamingsAt change record := by
  cases record with
  | added name current => exact Operation.renamings_creating _
  | removed name previous => exact Operation.renamings_dropping _
  | modified name previous current =>
      rcases context.stepGroup_modified_cases change name previous current with
        ⟨old, new, rfl, after⟩ | ⟨_, idle⟩
      · rw [stepGroup_modified after]
        exact Operation.renamings_reshaping ..
      · rw [idle]
        rfl
  | renamed source target previous current =>
      rcases renamed_cases previous current with ⟨old, new, rfl, rfl, differ⟩ | same
      · rw [stepGroup_reshaping_renamed differ]
        simp [renamingsAt]
      · rw [stepGroup_renamed same]
        exact Operation.renamings_renaming _

theorem renamings_key (transition : Transition KeyStrategy) :
    renamings (context.stepGroup change (.key transition)).forward = [] := by
  have rebuilding (old new : Option Column) (oldKey newKey : List String) :
      renamings (droppingKey old oldKey ++ addingKey new newKey) = [] := by
    rw [droppingKey, addingKey]
    simp only [Operation.renamings_append]
    rw [Operation.renamings_map_eq_nil fun _ => rfl, Operation.renamings_map_eq_nil fun _ => rfl]
    split <;> split <;> rfl
  by_cases counters : transition.source.IsCounter ∧ transition.target.IsCounter
  · rw [stepGroup_counters counters.1 counters.2]
    exact Operation.renamings_reshaping ..
  · rw [stepGroup_rebuilding counters]
    exact rebuilding ..

theorem renamings_forwardOf (steps : List ChangeStep) :
    renamings (context.forwardOf change steps) =
      steps.flatMap fun step => renamings (context.stepGroup change step).forward :=
  List.filterMap_flatMap

/-- Nothing but changes of properties renames columns. -/
theorem renamings_forward :
    renamings (context.forward change) = change.columns.flatMap (context.renamingsAt change) := by
  have properties : renamings (context.forwardOf change (change.columns.map .property)) =
      change.columns.flatMap (context.renamingsAt change) := by
    rw [renamings_forwardOf, List.flatMap_map]
    exact List.flatMap_congr fun record _ => context.renamings_property change record
  have indexes : renamings (context.forwardOf change (change.indexes.map .index)) = [] := by
    rw [renamings_forwardOf, List.flatMap_map, List.flatMap_eq_nil_iff]
    intro index _
    cases index <;> rfl
  have optional {α : Type} (transition : Option α) {step : α → ChangeStep}
      (none : ∀ given, renamings (context.stepGroup change (step given)).forward = []) :
      renamings (context.forwardOf change (transition.map step).toList) = [] := by
    cases transition with
    | none => rfl
    | some given =>
        rw [renamings_forwardOf]
        exact (List.flatMap_singleton ..).trans (none given)
  rw [forward_eq, EntityChange.steps, renamings_forwardOf]
  simp only [List.flatMap_append, ← renamings_forwardOf]
  rw [properties, indexes, optional _ (context.renamings_key change), optional _ ?timestamps,
    optional _ ?softDelete]
  case timestamps =>
    rintro ⟨_, enabled⟩
    cases enabled <;> rfl
  case softDelete =>
    rintro ⟨_, enabled⟩
    cases enabled <;> rfl
  simp

/-! ## What should be -/

/-- The definition that tells which columns a renamed property has. -/
def renamedDefinition? (source target : String) (previous current : Option Property) :
    Option Property :=
  (previous.or current).or ((context.definitionOf change).bind fun entity =>
    (entity.property? target).or (entity.property? source))

/-- The columns of the definition under the former name, each with the one in its place under the
new name, as far as these are called otherwise. -/
def movedColumns (source target : String) (definition : Property) : List (String × String) :=
  ((ByKey.keys Column.name (context.partsOf change source definition).columns).zip
    (ByKey.keys Column.name (context.partsOf change target definition).columns)).filter
      fun pair => pair.1 ≠ pair.2

/-- The columns that should be renamed. Without a definition there is nothing but the names to go
by. -/
def dueRenamings : PropertyChange → List (String × String)
  | .renamed source target previous current =>
      match context.renamedDefinition? change source target previous current with
      | some definition => context.movedColumns change source target definition
      | none => [(Text.snakeCase source, Text.snakeCase target)]
  | _ => []

/-- A renamed property has columns, and under the new name they are called otherwise. -/
def MovesColumns : PropertyChange → Prop
  | .renamed source target previous current =>
      ∀ definition ∈ context.renamedDefinition? change source target previous current,
        (context.partsOf change source definition).columns ≠ []
          ∧ definition.stem source ≠ definition.stem target
  | _ => True

end

variable {context : Context} {change : EntityChange} {source target : String}
  {previous current : Option Property}

theorem filter_stemPairs (source target : String) (endings : List String) :
    (stemPairs source target endings).filter (fun pair => pair.1 ≠ pair.2) =
      if source = target then [] else stemPairs source target endings := by
  split
  case isTrue same =>
    rw [List.filter_eq_nil_iff]
    intro pair member
    rcases List.mem_map.mp member with ⟨ending, _, rfl⟩
    simp [same]
  case isFalse differ =>
    rw [List.filter_eq_self]
    intro pair member
    rcases List.mem_map.mp member with ⟨ending, _, rfl⟩
    simpa using differ

/-- With a definition, what is renamed and what should be goes by the endings of the columns. -/
theorem exists_endings_of_definition {definition : Property}
    (defined :
      context.renamedDefinition? change source target previous current = some definition) :
    ∃ endings, ByKey.keys Column.name (context.partsOf change source definition).columns =
        endings.map (definition.stem source ++ ·)
      ∧ context.dueRenamings change (.renamed source target previous current) =
        (if definition.stem source = definition.stem target then []
        else stemPairs (definition.stem source) (definition.stem target) endings)
      ∧ context.renamingsAt change (.renamed source target previous current) =
        (if endings = [] then [(Text.snakeCase source, Text.snakeCase target)]
        else stemPairs (definition.stem source) (definition.stem target) endings) := by
  rcases context.exists_followStem_partsOf change definition with ⟨templates, follows, _⟩
  have names := follows.names source
  have pairs : (ByKey.keys Column.name (context.partsOf change source definition).columns).zip
      (ByKey.keys Column.name (context.partsOf change target definition).columns) =
        stemPairs (definition.stem source) (definition.stem target)
          ((templates source).map (·.name)) := by
    rw [names, names, List.zip_map']
    rfl
  refine ⟨(templates source).map (·.name), names source, ?_, ?_⟩
  · rw [dueRenamings, defined]
    dsimp only
    rw [movedColumns, pairs, filter_stemPairs]
  · have renamed : context.renamingsAt change (.renamed source target previous current) =
        context.renamedColumns change.entity (context.tableOfChange change) source target
          (some definition) :=
      congrArg (context.renamedColumns change.entity (context.tableOfChange change) source target)
        defined
    rw [renamed]
    split
    case isTrue columnless =>
      have none : (context.partsOf change source definition).columns = [] := by
        rw [columnless] at names
        exact List.map_eq_nil_iff.mp (names source)
      rw [partsOf] at none
      simp [renamedColumns, none]
    case isFalse columns => exact renamedColumns_eq follows (mt List.map_eq_nil_iff.mpr columns)

theorem renamingsAt_of_undefined
    (undefined : context.renamedDefinition? change source target previous current = none) :
    context.renamingsAt change (.renamed source target previous current) =
      context.dueRenamings change (.renamed source target previous current) := by
  have renamed : context.renamingsAt change (.renamed source target previous current) =
      context.renamedColumns change.entity (context.tableOfChange change) source target none :=
    congrArg (context.renamedColumns change.entity (context.tableOfChange change) source target)
      undefined
  rw [renamed, dueRenamings, undefined]
  rfl

theorem dueRenamings_sublist (record : PropertyChange) :
    (context.dueRenamings change record).Sublist (context.renamingsAt change record) := by
  cases record with
  | renamed source target previous current =>
      cases defined : context.renamedDefinition? change source target previous current with
      | none => rw [renamingsAt_of_undefined defined]
      | some definition =>
          rcases exists_endings_of_definition defined with ⟨endings, _, due, renamed⟩
          rw [due, renamed]
          split
          case isTrue => exact List.nil_sublist _
          case isFalse =>
            split
            case isTrue columnless => simp [columnless, stemPairs]
            case isFalse => exact List.Sublist.refl _
  | _ => exact List.Sublist.refl []

theorem renamingsAt_eq_iff (record : PropertyChange) :
    context.renamingsAt change record = context.dueRenamings change record ↔
      context.MovesColumns change record := by
  cases record with
  | renamed source target previous current =>
      cases defined : context.renamedDefinition? change source target previous current with
      | none =>
          refine iff_of_true (renamingsAt_of_undefined defined) fun definition isDefinition => ?_
          rw [defined] at isDefinition
          contradiction
      | some definition =>
          rcases exists_endings_of_definition defined with ⟨endings, names, due, renamed⟩
          have columnless : (context.partsOf change source definition).columns = [] ↔
              endings = [] := by
            rw [← List.map_eq_nil_iff (f := Column.name), ← List.map_eq_nil_iff (l := endings)]
            exact iff_of_eq (congrArg (· = []) names)
          have moves : context.MovesColumns change (.renamed source target previous current) ↔
              endings ≠ [] ∧ definition.stem source ≠ definition.stem target := by
            simp [MovesColumns, defined, columnless]
          rw [moves, due, renamed]
          by_cases none : endings = []
          · simp [none, stemPairs]
          · by_cases same : definition.stem source = definition.stem target <;>
              simp [none, same, stemPairs]
  | _ => exact iff_of_true rfl trivial

/-- All columns are renamed that should be, in their order; and no others are, exactly if every
renamed property has columns and changes their names. -/
theorem renamings_perm_iff (context : Context) (change : EntityChange) :
    (change.columns.flatMap (context.dueRenamings change)).Sublist
        (renamings (context.forward change))
      ∧ ((renamings (context.forward change)).Perm
          (change.columns.flatMap (context.dueRenamings change)) ↔
        ∀ record ∈ change.columns, context.MovesColumns change record) := by
  rw [renamings_forward]
  refine ⟨List.Sublist.flatMap_right _ fun record _ => dueRenamings_sublist record, ?_⟩
  rw [flatMap_perm_iff fun record _ => dueRenamings_sublist record]
  exact forall₂_congr fun record _ => renamingsAt_eq_iff record

/-! The articles of a user were called posts before, and users get a nickname. What leads to a user
is a column of the articles, and none of the users. -/

def authoredArticles : Property :=
  .association { relation := .oneToMany, target := "Post", mappedBy := some "author" }

def authorshipContext : Context :=
  .ofSettings {
    entities := [
      ("Post", { name := "Post" }),
      ("User", { name := "User", properties := [("articles", authoredArticles)] })] } {}

def articlesChange : EntityChange where
  entity := "User"
  columns := [
    .renamed "posts" "articles" (some authoredArticles) none,
    .added "nickname" (.scalar { typeName := "string" })]

/-- A column of the users is renamed, and nothing is called so. -/
theorem articlesChange_renames :
    authorshipContext.renamedDefinition? articlesChange "posts" "articles" (some authoredArticles)
        none = some authoredArticles
      ∧ (authorshipContext.partsOf articlesChange "posts" authoredArticles).columns = []
      ∧ renamings (authorshipContext.forward articlesChange) = [("posts", "articles")]
      ∧ ¬(renamings (authorshipContext.forward articlesChange)).Perm
        (articlesChange.columns.flatMap (authorshipContext.dueRenamings articlesChange)) := by
  exact ⟨rfl, rfl, by decide +kernel, by decide +kernel⟩

end Context

end Migration
