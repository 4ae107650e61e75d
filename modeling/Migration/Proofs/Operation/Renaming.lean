import Migration.Proofs.Operation.Restoring

namespace Migration

/-! Several renamings one after the other. Where every column that is renamed is there at the start,
and each takes its new name in its turn, the renamings do not run into each other. -/

def renamedAll (pairs : List (String × String)) (name : String) : String :=
  pairs.foldl (fun name pair => Blueprint.renamed pair.1 pair.2 name) name

@[simp] theorem renamedAll_nil : renamedAll [] = id := rfl

theorem renamedAll_cons (source target : String) (rest : List (String × String)) (name : String) :
    renamedAll ((source, target) :: rest) name =
      renamedAll rest (Blueprint.renamed source target name) := rfl

theorem renamedAll_of_not_mem {pairs : List (String × String)} {name : String}
    (unnamed : ∀ pair ∈ pairs, name ≠ pair.1) : renamedAll pairs name = name := by
  induction pairs with
  | nil => rfl
  | cons pair rest induction =>
      rcases pair with ⟨source, target⟩
      rw [renamedAll_cons, Blueprint.renamed_of_ne (unnamed (source, target) (by simp))]
      exact induction fun other member => unnamed other (by simp [member])

namespace Blueprint

/-- Each column takes its new name when its turn comes. -/
def TakesAll : Blueprint → List (String × String) → Prop
  | _, [] => True
  | blueprint, (source, target) :: rest =>
      blueprint.Takes source target ∧ (blueprint.renameColumn source target).TakesAll rest

instance (blueprint : Blueprint) (pairs : List (String × String)) :
    Decidable (blueprint.TakesAll pairs) := by
  induction pairs generalizing blueprint with
  | nil => exact .isTrue trivial
  | cons pair rest induction => exact @instDecidableAnd _ _ _ (induction _)

theorem hasColumn_renameColumn {blueprint : Blueprint} {source target name : String} :
    (blueprint.renameColumn source target).hasColumn name = true ↔
      ∃ old, blueprint.hasColumn old = true ∧ renamed source target old = name := by
  simp [hasColumn, renameColumn]

/-- A name that is taken already and is not given up is not given to another column. -/
theorem TakesAll.target_ne {blueprint : Blueprint} {pairs : List (String × String)}
    (takes : blueprint.TakesAll pairs) {name : String} (taken : blueprint.hasColumn name = true)
    (kept : ∀ pair ∈ pairs, name ≠ pair.1) : ∀ pair ∈ pairs, pair.2 ≠ name := by
  induction pairs generalizing blueprint with
  | nil => simp
  | cons pair rest induction =>
      rcases pair with ⟨source, target⟩
      have ⟨takesFirst, takesRest⟩ := takes
      have notSource : name ≠ source := kept (source, target) (by simp)
      have stillTaken : (blueprint.renameColumn source target).hasColumn name = true :=
        hasColumn_renameColumn.mpr ⟨name, taken, renamed_of_ne notSource target⟩
      have keptLater : ∀ pair ∈ rest, name ≠ pair.1 :=
        fun other member => kept other (by simp [member])
      intro other member
      rcases List.mem_cons.mp member with rfl | member
      · intro (same : target = name)
        rcases takesFirst with rfl | unknown
        · exact notSource same.symm
        · exact unknown (same ▸ .inl taken)
      · exact induction takesRest stillTaken keptLater other member

/-- Every column that is renamed ends up under the name meant for it. -/
theorem TakesAll.renamedAll_source {blueprint : Blueprint} {pairs : List (String × String)}
    (takes : blueprint.TakesAll pairs)
    (present : ∀ pair ∈ pairs, blueprint.hasColumn pair.1 = true)
    (functional : ∀ left ∈ pairs, ∀ right ∈ pairs, left.1 = right.1 → left.2 = right.2) :
    ∀ pair ∈ pairs, renamedAll pairs pair.1 = pair.2 := by
  induction pairs generalizing blueprint with
  | nil => simp
  | cons pair rest induction =>
      rcases pair with ⟨source, target⟩
      have ⟨takesFirst, takesRest⟩ := takes
      have restFunctional : ∀ left ∈ rest, ∀ right ∈ rest, left.1 = right.1 → left.2 = right.2 :=
        fun left leftMember right rightMember =>
          functional left (by simp [leftMember]) right (by simp [rightMember])
      have sameTarget {other : String × String} (member : other ∈ rest)
          (same : other.1 = source) : other.2 = target :=
        functional other (by simp [member]) (source, target) (by simp) same
      by_cases idle : target = source
      · -- The first renaming changes nothing.
        subst idle
        have unchanged : blueprint.renameColumn target target = blueprint := by
          simp [renameColumn]
        rw [unchanged] at takesRest
        have later := induction takesRest (fun other member => present other (by simp [member]))
          restFunctional
        intro other member
        rw [renamedAll_cons, renamed_self, id]
        rcases List.mem_cons.mp member with rfl | member
        · by_cases again : ∃ other ∈ rest, target = other.1
          · rcases again with ⟨other, otherMember, same⟩
            change renamedAll rest target = target
            rw [same, later other otherMember, sameTarget otherMember same.symm, ← same]
          · exact renamedAll_of_not_mem fun other otherMember same =>
              again ⟨other, otherMember, same⟩
        · exact later other member
      · -- The new name is not in use, so no later renaming touches it, and the old one is gone.
        have unknown : ¬blueprint.Mentions target := takesFirst.resolve_left idle
        have untouched : ∀ other ∈ rest, target ≠ other.1 := fun other member same =>
          unknown (.inl (same ▸ present other (by simp [member])))
        have taken : (blueprint.renameColumn source target).hasColumn target = true :=
          hasColumn_renameColumn.mpr
            ⟨source, present (source, target) (by simp), renamed_source source target⟩
        have gone : ∀ other ∈ rest, other.1 ≠ source := fun other member same =>
          takesRest.target_ne taken untouched other member (sameTarget member same)
        have stillPresent : ∀ other ∈ rest,
            (blueprint.renameColumn source target).hasColumn other.1 = true :=
          fun other member => hasColumn_renameColumn.mpr
            ⟨other.1, present other (by simp [member]), renamed_of_ne (gone other member) target⟩
        intro other member
        rw [renamedAll_cons]
        rcases List.mem_cons.mp member with rfl | member
        · rw [renamed_source]
          exact renamedAll_of_not_mem untouched
        · rw [renamed_of_ne (gone other member)]
          exact induction takesRest stillPresent restFunctional other member

end Blueprint

/-! ## Groups of renamings -/

namespace Operation

theorem replay_renaming (blueprint : Blueprint) (pairs : List (String × String)) :
    replay blueprint (pairs.map fun pair => .renameColumn pair.1 pair.2) =
      { blueprint with
        columns := blueprint.columns.map fun column =>
          { column with name := renamedAll pairs column.name }
        primaryKey := blueprint.primaryKey.map (renamedAll pairs)
        foreignKeys := blueprint.foreignKeys.map fun foreignKey =>
          { foreignKey with columns := foreignKey.columns.map (renamedAll pairs) }
        indexes := blueprint.indexes.map fun index =>
          { index with columns := index.columns.map (renamedAll pairs) } } := by
  induction pairs generalizing blueprint with
  | nil => simp
  | cons pair rest induction =>
      rw [List.map_cons, replay_cons, induction]
      simp [apply, Blueprint.renameColumn, renamedAll, Function.comp_def]

theorem admissible_renaming {blueprint : Blueprint} {pairs : List (String × String)}
    (takes : blueprint.TakesAll pairs) :
    AdmissibleRun blueprint (pairs.map fun pair => .renameColumn pair.1 pair.2) := by
  induction pairs generalizing blueprint with
  | nil => trivial
  | cons pair rest induction => exact ⟨takes.1, induction takes.2⟩

theorem restores_renaming {start : Blueprint} {pairs : List (String × String)}
    (takes : start.TakesAll pairs) :
    Restores (pairs.map fun pair => .renameColumn pair.1 pair.2)
      (pairs.reverse.map fun pair => .renameColumn pair.2 pair.1) start := by
  induction pairs generalizing start with
  | nil => exact .nil start
  | cons pair rest induction =>
      rcases pair with ⟨source, target⟩
      have ⟨takesFirst, takesRest⟩ := takes
      have first : Restores [.renameColumn source target] [.renameColumn target source] start := by
        intro outcome alike
        have back := alike.renameColumn target source
        rwa [replay_cons, replay_nil, apply, Blueprint.renameColumn_renameColumn takesFirst] at back
      rw [List.reverse_cons, List.map_append]
      exact first.append (induction takesRest)

end Operation

end Migration
