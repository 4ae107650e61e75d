import Migration.Proofs.Blueprint.PartColumns
import Migration.Proofs.Change.Steps

namespace Migration

/-! The parts of a property through its renaming. The former columns are looked up under the new
name, so they are those that the table has only if the property leads to the same entities under
both names. -/

open Operation (replay)

/-! ## Parts in a table whose columns are renamed -/

namespace Parts

/-- What the renamings of the table make of the parts. -/
def movedBy (parts : Parts) (pairs : List (String × String)) : Parts where
  columns := parts.columns.map fun column => column.renamed (renamedAll pairs column.name)
  foreignKeys := parts.foreignKeys.map fun foreignKey =>
    { foreignKey with columns := foreignKey.columns.map (renamedAll pairs) }
  indexes := parts.indexes.map fun index =>
    { index with columns := index.columns.map (renamedAll pairs) }

theorem Present.movedBy {parts : Parts} {state : Blueprint} (present : parts.Present state)
    (pairs : List (String × String)) :
    (parts.movedBy pairs).Present
      (replay state (pairs.map fun pair => .renameColumn pair.1 pair.2)) := by
  rw [Operation.replay_renaming]
  refine ⟨?_, ?_, ?_⟩
  · intro column member
    rcases List.mem_map.mp member with ⟨before, beforeMember, rfl⟩
    exact List.mem_map_of_mem (present.columns before beforeMember)
  · intro foreignKey member
    rcases List.mem_map.mp member with ⟨before, beforeMember, rfl⟩
    exact List.mem_map_of_mem (present.foreignKeys before beforeMember)
  · intro index member
    rcases List.mem_map.mp member with ⟨before, beforeMember, rfl⟩
    exact List.mem_map_of_mem (present.indexes before beforeMember)

/-- The constraints are looked up in the list of pairs, which comes to the same. -/
theorem Grounded.renamingColumns_eq {parts : Parts} (grounded : parts.Grounded)
    {pairs : List (String × String)} (agree : ∀ name ∈ ByKey.keys Column.name parts.columns,
      (pairs.lookup name).getD name = renamedAll pairs name) :
    parts.renamingColumns pairs = { parts.movedBy pairs with columns := parts.columns } := by
  have foreignKeys : parts.foreignKeys.map (fun foreignKey =>
      { foreignKey with columns :=
        foreignKey.columns.map fun name => (pairs.lookup name).getD name }) =
        (parts.movedBy pairs).foreignKeys := by
    apply List.map_congr_left
    intro foreignKey member
    have columns := List.map_congr_left fun name named =>
      agree name (grounded.foreignKeys foreignKey member name named)
    rw [columns]
  have indexes : parts.indexes.map (fun index =>
      { index with columns := index.columns.map fun name => (pairs.lookup name).getD name }) =
        (parts.movedBy pairs).indexes := by
    apply List.map_congr_left
    intro index member
    have columns := List.map_congr_left fun name named =>
      agree name (grounded.indexes index member name named)
    rw [columns]
  rw [renamingColumns]
  dsimp only
  rw [foreignKeys, indexes]

end Parts

/-! ## From one stem to another -/

/-- The columns of a stem come under another, one after the other. -/
def stemPairs (source target : String) (endings : List String) : List (String × String) :=
  endings.map fun ending => (source ++ ending, target ++ ending)

theorem lookup_stemPairs (source target : String) {endings : List String} {ending : String}
    (member : ending ∈ endings) :
    (stemPairs source target endings).lookup (source ++ ending) = some (target ++ ending) := by
  induction endings with
  | nil => contradiction
  | cons first rest induction =>
      rw [stemPairs, List.map_cons, List.lookup_cons]
      by_cases same : ending = first
      · simp [same]
      · have differs : source ++ ending ≠ source ++ first :=
          fun equal => same ((String.append_right_inj _).mp equal)
        rw [beq_false_of_ne differs]
        exact induction (List.mem_of_ne_of_mem same member)

theorem renamedAll_stemPairs {state : Blueprint} {source target : String} {endings : List String}
    (takes : state.TakesAll (stemPairs source target endings))
    (present : ∀ ending ∈ endings, state.hasColumn (source ++ ending) = true) {ending : String}
    (member : ending ∈ endings) :
    renamedAll (stemPairs source target endings) (source ++ ending) = target ++ ending := by
  have everyPresent : ∀ pair ∈ stemPairs source target endings,
      state.hasColumn pair.1 = true := by
    intro pair pairMember
    rcases List.mem_map.mp pairMember with ⟨other, otherMember, rfl⟩
    exact present other otherMember
  have functional : ∀ left ∈ stemPairs source target endings,
      ∀ right ∈ stemPairs source target endings, left.1 = right.1 → left.2 = right.2 := by
    intro left leftMember right rightMember same
    rcases List.mem_map.mp leftMember with ⟨leftEnding, _, rfl⟩
    rcases List.mem_map.mp rightMember with ⟨rightEnding, _, rfl⟩
    have sameEnding : leftEnding = rightEnding := (String.append_right_inj _).mp same
    rw [sameEnding]
  exact takes.renamedAll_source everyPresent functional (source ++ ending, target ++ ending)
    (List.mem_map_of_mem member)

/-- What a table has under the first of two names goes back under the name before. -/
theorem mem_renamed_back (state : Blueprint) (old : Parts) {new : Parts} {type key : Column}
    (typeName keyName : String) (columns : new.columns = [type, key])
    (differ : type.name ≠ key.name) :
    type.renamed typeName ∈ (replay (replay state (old.reshaping new))
      ([(typeName, type.name), (keyName, key.name)].reverse.map
        fun pair => .renameColumn pair.2 pair.1)).columns := by
  have altered : type ∈ (replay state (old.reshaping new)).columns := by
    rw [Operation.replay_reshaping, columns]
    exact Blueprint.mem_alterAll (by simpa using differ) (by simp)
  have named : renamedAll [(key.name, keyName), (type.name, typeName)] type.name = typeName := by
    rw [renamedAll_cons, Blueprint.renamed_of_ne differ, renamedAll_cons]
    exact Blueprint.renamed_source ..
  change _ ∈ (replay _ ([(key.name, keyName), (type.name, typeName)].map
    fun pair => .renameColumn pair.1 pair.2)).columns
  rw [Operation.replay_renaming]
  refine List.mem_map.mpr ⟨type, altered, ?_⟩
  rw [named]
  rfl

namespace Context

section

variable (context : Context) (change : EntityChange)

theorem partsOf_modest (name : String) (property : Property) :
    (context.partsOf change name property).Modest :=
  context.parts_modest change.entity (context.tableOfChange change) name property

theorem exists_followStem_partsOf (property : Property) : ∃ templates,
    FollowStem (fun name => (context.partsOf change name property).columns) property.stem
        templates ∧
      ∀ source target, context.KeepsTargets change.entity source target property →
        templates source = templates target :=
  context.exists_followStem change.entity (context.tableOfChange change) property

end

variable {context : Context} {change : EntityChange} {source target : String}
  {previous : Property} {current : Option Property}

theorem renamedColumns_eq {stem : String → String} {templates : String → List Column}
    (follows :
      FollowStem (fun name => (context.partsOf change name previous).columns) stem templates)
    (nonempty : templates source ≠ []) :
    context.renamedColumns change.entity (context.tableOfChange change) source target
        (some previous) =
      stemPairs (stem source) (stem target) ((templates source).map (·.name)) := by
  have names := follows.names source
  unfold renamedColumns
  simp only [ByKey.keys, partsOf] at names
  simp only [names, List.zip_map']
  exact if_neg (by simpa using nonempty)

theorem pairsOf_eq {stem : String → String} {templates : String → List Column}
    (follows :
      FollowStem (fun name => (context.partsOf change name previous).columns) stem templates)
    (nonempty : templates source ≠ []) :
    context.pairsOf change source target (some previous) current =
      stemPairs (stem source) (stem target) ((templates source).map (·.name)) :=
  renamedColumns_eq follows nonempty

/-- Where the property leads to the same entities under both names, what it is taken to consist of
after the renaming is what the table then has. -/
theorem partsAfterRenaming_eq {state : Blueprint} {current : Property}
    (takes : state.TakesAll (context.pairsOf change source target (some previous) (some current)))
    (present : (context.partsOf change source previous).Present state)
    (keeps : context.KeepsTargets change.entity source target previous) :
    context.partsAfterRenaming change source target previous current =
      (context.partsOf change source previous).movedBy
        (context.pairsOf change source target (some previous) (some current)) := by
  have grounded := (context.partsOf_modest change source previous).toGrounded
  rcases context.exists_followStem_partsOf change previous with ⟨templates, follows, kept⟩
  have former : (context.partsOf change source previous).columns =
      columnsUnder (previous.stem source) (templates source) := follows.columns source
  have later : (context.partsOf change target previous).columns =
      columnsUnder (previous.stem target) (templates source) := by
    rw [kept source target keeps]
    exact follows.columns target
  have moved : ∀ template ∈ templates source,
      renamedAll (context.pairsOf change source target (some previous) (some current))
          (previous.stem source ++ template.name) = previous.stem target ++ template.name := by
    intro template member
    rw [pairsOf_eq follows (List.ne_nil_of_mem member)] at takes ⊢
    apply renamedAll_stemPairs takes _ (List.mem_map_of_mem member)
    intro ending endingMember
    rcases List.mem_map.mp endingMember with ⟨other, otherMember, rfl⟩
    have stood := present.columns (other.renamed (previous.stem source ++ other.name))
      (former ▸ List.mem_map_of_mem otherMember)
    exact Blueprint.hasColumn_iff.mpr (ByKey.mem_keys_of_mem Column.name stood)
  have agree : ∀ name ∈ ByKey.keys Column.name (context.partsOf change source previous).columns,
      ((context.pairsOf change source target (some previous) (some current)).lookup name).getD name
        = renamedAll (context.pairsOf change source target (some previous) (some current))
          name := by
    intro name member
    rw [former, keys_columnsUnder, List.map_map] at member
    rcases List.mem_map.mp member with ⟨template, templateMember, rfl⟩
    have found := lookup_stemPairs (previous.stem source) (previous.stem target)
      (List.mem_map_of_mem (f := (·.name)) templateMember)
    rw [Function.comp_apply, moved template templateMember,
      pairsOf_eq follows (List.ne_nil_of_mem templateMember), found]
    rfl
  have columns : (context.partsOf change target previous).columns =
      ((context.partsOf change source previous).movedBy
        (context.pairsOf change source target (some previous) (some current))).columns := by
    rw [later, Parts.movedBy, former, columnsUnder, columnsUnder, List.map_map]
    apply List.map_congr_left
    intro template member
    simp [moved template member]
  change { (context.partsOf change source previous).renamingColumns
    (context.pairsOf change source target (some previous) (some current)) with
      columns := (context.partsOf change target previous).columns } = _
  rw [grounded.renamingColumns_eq agree, columns]

/-- An entity that is found under one name only stays behind in the column for the type, when a
reshaping renaming is taken back. -/
theorem keepsTargets_of_restored {state start : Blueprint} {current : Property}
    (distinct : start.Distinct) (present : (context.partsOf change source previous).Present start)
    (restored : (replay (replay state ((context.partsOf change target current).reshaping
        (context.partsAfterRenaming change source target previous current)))
      ((context.pairsOf change source target (some previous) (some current)).reverse.map
        fun pair => .renameColumn pair.2 pair.1)).Alike start) :
    context.KeepsTargets change.entity source target previous := by
  cases previous with
  | association association =>
      intro discovers
      have ⟨⟨morph, unnamed⟩, listless⟩ :
          (association.relation = .morphTo ∧ association.morphName = none)
            ∧ association.morphTargets = [] := by
        simpa [Association.discoversTargets] using discovers
      have follows : FollowStem
          (fun name => (context.partsOf change name (.association association)).columns) _ _ :=
        context.followStem_morph change.entity (context.tableOfChange change) morph
      have targets (name : String) : context.morphTargetsOf change.entity name association =
          context.discoveredTargets change.entity (Text.snakeCase name) := by
        simp [morphTargetsOf, morphName, unnamed, listless]
      rcases context.exists_morphTemplates association
          (context.morphTargetsOf change.entity source association) with
        ⟨formerType, formerKey, former, formerName, formerKeyName, formerTargets⟩
      rcases context.exists_morphTemplates association
          (context.morphTargetsOf change.entity target association) with
        ⟨laterType, laterKey, later, laterName, laterKeyName, laterTargets⟩
      have under (stem : String) {type key : Column} (typeName : type.name = "_type")
          (keyName : key.name = "_id") : columnsUnder stem [type, key] =
            [type.renamed (stem ++ "_type"), key.renamed (stem ++ "_id")] := by
        simp [columnsUnder, typeName, keyName]
      have pairs : context.pairsOf change source target (some (.association association))
          (some current) =
            [(morphName source association ++ "_type", morphName target association ++ "_type"),
              (morphName source association ++ "_id", morphName target association ++ "_id")] := by
        rw [pairsOf_eq follows (by simp [former]), former]
        simp [stemPairs, formerName, formerKeyName]
      have formerColumns := follows.columns source
      have laterColumns := follows.columns target
      simp only [former, later, under _ formerName formerKeyName,
        under _ laterName laterKeyName] at formerColumns laterColumns
      rw [← partsAfterRenaming_columns context change source target _ current] at laterColumns
      rw [pairs] at restored
      -- The column for the type as it is found under the new name is what the way back leaves.
      have found := mem_renamed_back state (context.partsOf change target current)
        (morphName source association ++ "_type") (morphName source association ++ "_id")
        laterColumns (by simp)
      simp only [Column.renamed_name, Column.renamed_renamed] at found
      have left := restored.columns.subset found
      have stood := present.columns (formerType.renamed (morphName source association ++ "_type"))
        (by rw [formerColumns]; simp)
      have same := ByKey.single_of_nodup Column.name distinct.columns _ left _ stood rfl
      have sameTargets : laterType.args.values = formerType.args.values :=
        congrArg (·.args.values) same
      rw [← targets, ← targets, ← formerTargets, ← laterTargets]
      exact sameTargets.symm
  | _ => trivial

end Context

end Migration
