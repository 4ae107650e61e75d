import Migration.Plan.Basic
import Migration.Proofs.Schema.Documents
import Migration.Proofs.Timestamp.Text
import Migration.Revision

namespace Migration

open Json

/-! Plans and revisions come back from the documents that they are written as, whatever is in them;
so nothing of what a schema is loaded, planned and revised with is lost on the way. -/

/-! ## Blueprints -/

instance : Lossless Storage where
  readsBack storage := by cases storage <;> rfl

instance : Lossless StorageArgs where
  readsBack _ := (decodeRecord_bind rfl (by decide) _).trans (by simp)

instance : Lossless Modifier where
  readsBack
    | .primary => rfl
    | .nullable => rfl
    | .unsigned => rfl
    | .unique => rfl
    | .default _ => (decodeTagged_bind (by decide) _ _).trans
        ((decodeRecord_bind rfl (by decide) _).trans (by simp))
    | .comment _ => (decodeTagged_bind (by decide) _ _).trans
        ((decodeRecord_bind rfl (by decide) _).trans (by simp))

instance : Lossless Column where
  readsBack _ := (decodeRecord_bind rfl (by decide) _).trans (by simp)

instance : Lossless ForeignKey where
  readsBack _ := (decodeRecord_bind rfl (by decide) _).trans (by simp)

instance : Lossless Index where
  readsBack _ := (decodeRecord_bind rfl (by decide) _).trans (by simp)

instance : Lossless Blueprint where
  readsBack _ := (decodeRecord_bind rfl (by decide) _).trans (by simp)

/-! ## Plans -/

theorem Timestamp.decode_string (text : String) :
    (decode (.string text) : Except Misfit Timestamp) =
      match Timestamp.parse text with
      | .ok timestamp => .ok timestamp
      | .error failure => .error (.rejected failure.message) := rfl

instance : Lossless Timestamp where
  readsBack timestamp := by
    have written : encode timestamp = .string timestamp.text := rfl
    rw [ReadsBack, written, Timestamp.decode_string, Timestamp.parse, timestamp.ofText?_text]

instance : Lossless TableKind where
  readsBack kind := by cases kind <;> rfl

instance : Lossless Edge where
  readsBack _ := (decodeRecord_bind rfl (by decide) _).trans (by simp)

instance : Lossless OrderedTable where
  readsBack _ := (decodeRecord_bind rfl (by decide) _).trans (by simp)

instance : Lossless Plan where
  readsBack _ := (decodeRecord_bind rfl (by decide) _).trans (by simp)

/-! ## Revisions -/

/-- An operation without a value is written as its name alone. -/
instance : Lossless Operation where
  readsBack operation := by
    cases operation
    case addTimestamps => rfl
    case dropTimestamps => rfl
    case addSoftDeletes => rfl
    case dropSoftDeletes => rfl
    all_goals
      exact (decodeTagged_bind (by decide) _ _).trans
        ((decodeRecord_bind rfl (by decide) _).trans (by simp))

instance : Lossless Delta where
  readsBack _ := (decodeRecord_bind rfl (by decide) _).trans (by simp)

instance : Lossless RevisionKind where
  readsBack kind := by cases kind <;> rfl

instance : Lossless Revision where
  readsBack _ := (decodeRecord_bind rfl (by decide) _).trans (by simp)

/-! ## Everything together -/

/-- Whatever has been loaded comes back from the document that it is written as, and so does what
is planned and revised for it. -/
theorem documents_readBack {schema : Schema} {set : ChangeSet} (loaded : schema.Loaded)
    (changes : set.Loaded) (settings : Settings) (now : Timestamp) :
    ReadsBack schema ∧ ReadsBack set ∧ ReadsBack (schema.plan settings now)
      ∧ ReadsBack (schema.revisions settings set now) :=
  ⟨loaded.readsBack, changes.readsBack, readsBack _, readsBack _⟩

/-- Posts with tags, the links between them with a field of their own. The first entity has no
name, and one of the standard types is another. -/
def blogDocument : Value :=
  .object [
    ("entities", .object [
      ("Post", .object [("properties", .object [
        ("title", .object [("kind", .string "scalar"), ("type", .string "string"),
          ("default", .null), ("display_name", .object [("de", .string "Titel")])]),
        ("tags", .object [("kind", .string "association"), ("relation", .string "many_to_many"),
          ("target", .string "Tag"), ("pivot_fields", .object [
            ("place", .object [("kind", .string "scalar"), ("type", .string "int"),
              ("default", .integer 0)])])])])]),
      ("Tag", .object [])]),
    ("compound_types", .object [("money", .object [("fields", .array [])])])]

/-- The title is renamed, and a removed entity is given by its name alone. -/
def blogChanges : Value :=
  .object [
    ("changes", .array [.object [("entity", .string "Post"), ("columns", .array [
      .object [("change", .string "renamed"), ("from", .string "headline"),
        ("to", .string "title")]])]]),
    ("removed", .array [.object [("name", .string "Draft")]])]

theorem blogDocuments_readBack : ∃ (schema : Schema) (set : ChangeSet),
    decode blogDocument = .ok schema ∧ decode blogChanges = .ok set
      ∧ ReadsBack schema ∧ ReadsBack set ∧ ReadsBack (schema.plan {} .unixEpoch)
      ∧ ReadsBack (schema.revisions {} set .unixEpoch) := by
  have isSchema : (decode blogDocument : Except Misfit Schema).isOk := by decide +kernel
  have isSet : (decode blogChanges : Except Misfit ChangeSet).isOk := by decide +kernel
  rcases exists_of_isOk isSchema with ⟨schema, loaded⟩
  rcases exists_of_isOk isSet with ⟨set, changes⟩
  exact ⟨schema, set, loaded, changes,
    documents_readBack (.inl ⟨blogDocument, loaded⟩) (.inl ⟨blogChanges, changes⟩) {} .unixEpoch⟩

end Migration
