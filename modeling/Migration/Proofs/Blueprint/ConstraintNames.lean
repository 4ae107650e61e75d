import Migration.Blueprint.Constraint
import Migration.Proofs.ByKey
import Migration.Proofs.Text.LowerCase

namespace Migration

/-! The names of constraints. What a column contributes to them follows an underscore, so that lists
of columns are told apart as far as these contributions are, put one after the other. A column that
is named after words stands as it is. -/

/-- Texts that the names of constraints keep as they are. -/
def Text.IsSettled (text : String) : Prop :=
  ∀ c ∈ text.toList, Text.Settled c

instance (text : String) : Decidable (Text.IsSettled text) :=
  List.decidableBAll Text.Settled text.toList

theorem Text.IsSettled.append {left right : String} (leftSettled : Text.IsSettled left)
    (rightSettled : Text.IsSettled right) : Text.IsSettled (left ++ right) := by
  rw [IsSettled, String.toList_append]
  exact List.forall_mem_append.mpr ⟨leftSettled, rightSettled⟩

theorem isSettled_foreignKeyColumn (name : String) : Text.IsSettled (foreignKeyColumn name) :=
  .append (Text.settled_snakeCase name) (by decide)

/-- How a text is written in the name of a constraint. -/
def spelled (text : String) : String :=
  Text.lowerText (text.map fun c => if c = '-' || c = '.' then '_' else c)

theorem map_append_underscore {change : Char → Char} (kept : change '_' = '_')
    (left right : String) :
    (left ++ "_" ++ right).map change = left.map change ++ "_" ++ right.map change := by
  simp [← String.toList_inj, String.toList_map, kept]

theorem spelled_append_underscore (left right : String) :
    spelled (left ++ "_" ++ right) = spelled left ++ "_" ++ spelled right := by
  rw [spelled, map_append_underscore rfl, Text.lowerText_append_underscore]
  rfl

theorem spelled_of_isSettled {text : String} (settled : Text.IsSettled text) :
    spelled text = text := by
  have kept : text.map (fun c => if c = '-' || c = '.' then '_' else c) = text := by
    rw [← String.toList_inj, String.toList_map]
    apply ByKey.map_eq_self
    intro c member
    simp [(settled c member).kept]
  rw [spelled, kept,
    Text.lowerText_eq_self fun c member => ⟨(settled c member).noSigma, (settled c member).lowered⟩]

/-- What the columns contribute to the name of a constraint over them. -/
def spelledColumns (columns : List String) : String :=
  String.join (columns.map ("_" ++ spelled ·))

theorem constraintName_eq (table : String) (columns : List String) (kind : String) :
    constraintName table columns kind =
      spelled table ++ spelledColumns columns ++ "_" ++ spelled kind := by
  induction columns generalizing table with
  | nil =>
      have joined : "_".intercalate ([table] ++ [] ++ [kind]) = table ++ "_" ++ kind := by simp
      change spelled ("_".intercalate ([table] ++ [] ++ [kind])) = _
      rw [joined, spelled_append_underscore]
      simp [spelledColumns]
  | cons column rest induction =>
      have joined : "_".intercalate ([table] ++ (column :: rest) ++ [kind]) =
          table ++ "_" ++ "_".intercalate ([column] ++ rest ++ [kind]) := by simp
      have later : spelled ("_".intercalate ([column] ++ rest ++ [kind])) =
          spelled column ++ spelledColumns rest ++ "_" ++ spelled kind := induction column
      change spelled ("_".intercalate ([table] ++ (column :: rest) ++ [kind])) = _
      rw [joined, spelled_append_underscore, later]
      simp [spelledColumns, String.append_assoc]

theorem constraintName_eq_iff {table kind : String} {left right : List String} :
    constraintName table left kind = constraintName table right kind ↔
      spelledColumns left = spelledColumns right := by
  rw [constraintName_eq, constraintName_eq]
  simp [String.append_left_inj, String.append_right_inj]

theorem constraintName_inj {table kind left right : String} (leftSettled : Text.IsSettled left)
    (rightSettled : Text.IsSettled right)
    (same : constraintName table [left] kind = constraintName table [right] kind) :
    left = right := by
  have columns := constraintName_eq_iff.mp same
  simpa [spelledColumns, spelled_of_isSettled leftSettled, spelled_of_isSettled rightSettled,
    String.append_right_inj] using columns

/-- Constraints of kinds that end in different letters have different names. -/
theorem constraintName_ne {leftKind rightKind : String} (leftSettled : Text.IsSettled leftKind)
    (rightSettled : Text.IsSettled rightKind) {left right : Char}
    (leftLast : leftKind.toList.getLast? = some left)
    (rightLast : rightKind.toList.getLast? = some right) (differ : left ≠ right)
    (table : String) (leftColumns rightColumns : List String) :
    constraintName table leftColumns leftKind ≠ constraintName table rightColumns rightKind := by
  intro same
  rw [constraintName_eq, constraintName_eq, spelled_of_isSettled leftSettled,
    spelled_of_isSettled rightSettled] at same
  have last := congrArg (·.toList.getLast?) same
  simp only [String.toList_append, List.getLast?_append, leftLast, rightLast,
    Option.some_or] at last
  exact differ (Option.some.inj last)

theorem conventionalName_eq_iff {table : String} {left right : List String}
    {leftUnique rightUnique : Bool} :
    Index.conventionalName table left leftUnique = Index.conventionalName table right rightUnique ↔
      spelledColumns left = spelledColumns right ∧ leftUnique = rightUnique := by
  have apart (first second : List String) :
      constraintName table first "unique" ≠ constraintName table second "index" :=
    constraintName_ne (by decide) (by decide) rfl rfl (by decide) table first second
  cases leftUnique <;> cases rightUnique
  · exact constraintName_eq_iff.trans (and_iff_left rfl).symm
  · exact iff_of_false (apart right left).symm fun same => Bool.noConfusion same.2
  · exact iff_of_false (apart left right) fun same => Bool.noConfusion same.2
  · exact constraintName_eq_iff.trans (and_iff_left rfl).symm

theorem foreignName_ne_conventionalName (table : String) (left right : List String)
    (unique : Bool) : constraintName table left "foreign" ≠
      Index.conventionalName table right unique := by
  cases unique
  · exact constraintName_ne (by decide) (by decide) rfl rfl (by decide) table left right
  · exact constraintName_ne (by decide) (by decide) rfl rfl (by decide) table left right

end Migration
