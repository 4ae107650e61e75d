import Migration.Property.Json
import Migration.Proofs.Json.Records

namespace Migration

open Json

/-! Properties that have been read come back from the documents that they are written as, with what
is nested in them. -/

/-! ## Names -/

instance : Lossless KeyStrategy where
  readsBack strategy := by cases strategy <;> rfl

instance : Lossless Relation where
  readsBack relation := by cases relation <;> rfl

instance : Lossless ReferentialAction where
  readsBack action := by cases action <;> rfl

instance : NeverNull ReferentialAction := ⟨nofun⟩

/-! ## Literals and captions -/

theorem fitsInt64_toInt (value : Int64) : fitsInt64 value.toInt = true := by
  simp only [fitsInt64, Bool.and_eq_true, decide_eq_true_eq]
  exact ⟨value.minValue_le_toInt, value.toInt_le⟩

instance : Lossless Literal where
  readsBack
    | .null => rfl
    | .bool _ => rfl
    | .int value => by
        change (if fitsInt64 value.toInt then Except.ok (Literal.int (.ofInt value.toInt))
          else _) = _
        rw [if_pos (fitsInt64_toInt value), Int64.ofInt_toInt]
    | .float _ => rfl
    | .string _ => rfl

/-- Only `null` is read as the literal that stands for it. -/
theorem Literal.encode_ne_null {document : Value} {literal : Literal} (present : document ≠ .null)
    (reads : decode document = .ok literal) : encode literal ≠ .null := by
  rintro isNull
  cases literal with
  | null =>
      cases document with
      | null => exact present rfl
      | integer value =>
          change (if fitsInt64 value then Except.ok (Literal.int (.ofInt value))
            else _) = _ at reads
          split at reads
          · cases reads
          · split at reads <;> cases reads
      | _ => cases reads
  | _ => cases isNull

instance : Stable (Option Literal) where
  readsBack {document value} given := by
    cases value with
    | none => exact readsBack_none
    | some literal =>
        have present : document ≠ .null := by
          rintro rfl
          cases given
        rw [decode_option_of_ne_null present] at given
        rcases map_eq_ok.mp given with ⟨_, read, same⟩
        cases same
        exact readsBack_some (readsBack literal) (literal.encode_ne_null present read)

instance : Stable Caption where
  readsBack {document caption} given := by
    cases document with
    | string text =>
        cases given
        rfl
    | object members =>
        rcases map_eq_ok.mp given with ⟨texts, read, rfl⟩
        have back : ReadsBack texts := Stable.readsBack read
        exact map_eq_ok.mpr ⟨texts, back, rfl⟩
    | _ => cases given

instance : NeverNull Caption where
  encode_ne_null caption := by cases caption <;> exact nofun

/-! ## Properties without others in them -/

instance (hints : TypeHints) : Within hints.fields ["length", "precision", "scale"] := by
  unfold TypeHints.fields
  infer_instance

instance (scalar : Scalar) : Within scalar.fields Scalar.fieldNames := by
  unfold Scalar.fields
  infer_instance

theorem Scalar.decode_fields {scalar : Scalar} (default : ReadsBack scalar.default)
    (caption : ReadsBack scalar.caption) : decode (.object scalar.fields) = .ok scalar :=
  (decodeRecord_bind rfl (by decide) _).trans
    (by simp [fields, TypeHints.fields, TypeHints.ofRecord, default, caption])

theorem Scalar.readsBack {value : Value} {scalar : Scalar} (reads : decode value = .ok scalar) :
    decode (.object scalar.fields) = .ok scalar := by
  simp only [decode, bind_eq_ok] at reads
  rcases reads with ⟨record, -, typeName, -, hints, -, nullable, -, unique, -, indexed, -, primary,
    -, default, isDefault, unsigned, -, caption, isCaption, same⟩
  cases same
  exact decode_fields (Record.readsBack_of_optional isDefault)
    (Record.readsBack_of_optional isCaption)

instance (enumeration : Enumeration) :
    Within enumeration.fields ["values", "nullable", "default", "display_name"] := by
  unfold Enumeration.fields
  infer_instance

theorem Enumeration.decode_fields {enumeration : Enumeration}
    (default : ReadsBack enumeration.default) (caption : ReadsBack enumeration.caption) :
    decode (.object enumeration.fields) = .ok enumeration :=
  (decodeRecord_bind rfl (by decide) _).trans (by simp [fields, default, caption])

theorem Enumeration.readsBack {value : Value} {enumeration : Enumeration}
    (reads : decode value = .ok enumeration) :
    decode (.object enumeration.fields) = .ok enumeration := by
  simp only [decode, bind_eq_ok] at reads
  rcases reads with ⟨record, -, values, -, nullable, -, default, isDefault, caption, isCaption,
    same⟩
  cases same
  exact decode_fields (Record.readsBack_of_optional isDefault)
    (Record.readsBack_of_optional isCaption)

instance (reference : EnumReference) :
    Within reference.fields ["enum", "nullable", "default", "display_name"] := by
  unfold EnumReference.fields
  infer_instance

theorem EnumReference.decode_fields {reference : EnumReference}
    (default : ReadsBack reference.default) (caption : ReadsBack reference.caption) :
    decode (.object reference.fields) = .ok reference :=
  (decodeRecord_bind rfl (by decide) _).trans (by simp [fields, default, caption])

theorem EnumReference.readsBack {value : Value} {reference : EnumReference}
    (reads : decode value = .ok reference) :
    decode (.object reference.fields) = .ok reference := by
  simp only [decode, bind_eq_ok] at reads
  rcases reads with ⟨record, -, enumName, -, nullable, -, default, isDefault, caption, isCaption,
    same⟩
  cases same
  exact decode_fields (Record.readsBack_of_optional isDefault)
    (Record.readsBack_of_optional isCaption)

instance : Lossless FieldOverride where
  readsBack _ := (decodeRecord_bind rfl (by decide) _).trans (by simp [TypeHints.ofRecord])

instance (compound : CompoundUse) :
    Within compound.fields ["type", "nullable", "field_overrides", "display_name"] := by
  unfold CompoundUse.fields
  infer_instance

theorem CompoundUse.decode_fields {compound : CompoundUse}
    (overrides : ReadsBack compound.overrides) (caption : ReadsBack compound.caption) :
    decode (.object compound.fields) = .ok compound :=
  (decodeRecord_bind rfl (by decide) _).trans (by simp [fields, overrides, caption])

theorem CompoundUse.readsBack {value : Value} {compound : CompoundUse}
    (reads : decode value = .ok compound) : decode (.object compound.fields) = .ok compound := by
  simp only [decode, bind_eq_ok] at reads
  rcases reads with ⟨record, -, typeName, -, nullable, -, overrides, isOverrides, caption,
    isCaption, same⟩
  cases same
  have none : ReadsBack ([] : Keyed FieldOverride) := rfl
  exact decode_fields (Record.readsBack_of_orElse none isOverrides)
    (Record.readsBack_of_optional isCaption)

/-! ## Properties within associations -/

theorem encodedFields_eq (entries : Keyed Property) :
    Value.object (encodedFields entries) = encode entries := by
  suffices same : encodedFields entries = entries.map fun entry => (entry.1, encode entry.2) from
    congrArg Value.object same
  induction entries with
  | nil => rfl
  | cons entry rest induction =>
      rw [encodedFields, induction]
      rfl

namespace Association

theorem fields_eq (association : Association) : association.fields =
    field "relation" association.relation ++ field "target" association.target
      ++ optionalField "mapped_by" association.mappedBy
      ++ optionalField "inversed_by" association.inversedBy
      ++ optionalField "join_table" association.joinTable
      ++ optionalField "morph_name" association.morphName
      ++ optionalField "on_delete" association.onDelete
      ++ optionalField "on_update" association.onUpdate
      ++ optionalField "nullable" association.nullable
      ++ optionalField "owning" association.owning
      ++ field "primary" association.primary
      ++ entriesField "pivot_fields" association.pivotFields
      ++ listField "morph_targets" association.morphTargets
      ++ optionalField "display_name" association.caption := by
  cases association
  simp only [fields, entriesField, encodedFields_eq]

instance (association : Association) : Within association.fields fieldNames := by
  rw [fields_eq]
  infer_instance

theorem decodeWith_fields {association : Association} {read : Value → Except Misfit Property}
    (pivotFields : decodeEntries read (encode association.pivotFields) =
      .ok association.pivotFields)
    (caption : ReadsBack association.caption) :
    decodeWith read (.object association.fields) = .ok association := by
  have found := elim_unlessEmpty pivotFields
  refine (decodeRecord_bind rfl (by decide) _).trans ?_
  simp [fields_eq, found, caption]
  cases association
  rfl

/-- The pivot fields of an association that has been read have been read, each once. -/
theorem of_decodeWith {association : Association} {value : Value}
    {read : Value → Except Misfit Property} (reads : decodeWith read value = .ok association) :
    ReadsBack association.caption ∧ (Keyed.keys association.pivotFields).Nodup
      ∧ ∀ entry ∈ association.pivotFields, ∃ item, read item = .ok entry.2 := by
  simp only [decodeWith, bind_eq_ok] at reads
  rcases reads with ⟨record, -, relation, -, target, -, mappedBy, -, inversedBy, -, joinTable, -,
    morphName, -, onDelete, -, onUpdate, -, nullable, -, owning, -, primary, -, pivotFields,
    isPivotFields, morphTargets, -, caption, isCaption, same⟩
  cases same
  refine ⟨Record.readsBack_of_optional isCaption, ?_⟩
  rcases Record.of_withDefault isPivotFields with rfl | ⟨document, read⟩
  · exact ⟨List.nodup_nil, fun _ member => nomatch member⟩
  · exact of_decodeEntries_eq_ok read

end Association

namespace Property

theorem depth_pos (property : Property) : 0 < property.encoded.depth := by
  cases property <;> simp [encoded, tagged, Value.depth]

/-- Whatever is nested in an association is nested less deep than the association itself. -/
theorem depth_pivotField_lt {association : Association} {name : String} {property : Property}
    (member : (name, property) ∈ association.pivotFields) :
    property.encoded.depth < (encoded (.association association)).depth := by
  have written : (name, encode property) ∈ association.pivotFields.map fun entry =>
      (entry.1, encode entry.2) := List.mem_map_of_mem member
  have field : ("pivot_fields", encode association.pivotFields) ∈
      ("kind", .string "association") :: association.fields := by
    simp [Association.fields_eq, entriesField, List.ne_nil_of_mem member]
  exact Nat.lt_trans (Value.depth_lt_of_mem written) (Value.depth_lt_of_mem field)

/-- What has been read at some depth comes back at any that the written document allows. -/
theorem decodeWithin_encoded {depth : Nat} {value : Value} {property : Property}
    (reads : decodeWithin depth value = .ok property) {bound : Nat}
    (within : property.encoded.depth ≤ bound) :
    decodeWithin bound property.encoded = .ok property := by
  induction depth generalizing value property bound with
  | zero => cases reads
  | succ depth induction =>
      rcases bound with _ | bound
      · exact absurd within (Nat.not_le_of_gt property.depth_pos)
      rcases bind_eq_ok.mp reads with ⟨⟨name, fields⟩, -, read⟩
      split at read
      case h_1 =>
        rcases bind_eq_ok.mp read with ⟨scalar, isScalar, same⟩
        cases same
        exact (decodeTagged_bind (by decide) _ _).trans
          (bind_eq_ok.mpr ⟨scalar, scalar.readsBack isScalar, rfl⟩)
      case h_2 =>
        rcases bind_eq_ok.mp read with ⟨enumeration, isEnumeration, same⟩
        cases same
        exact (decodeTagged_bind (by decide) _ _).trans
          (bind_eq_ok.mpr ⟨enumeration, enumeration.readsBack isEnumeration, rfl⟩)
      case h_3 =>
        rcases bind_eq_ok.mp read with ⟨reference, isReference, same⟩
        cases same
        exact (decodeTagged_bind (by decide) _ _).trans
          (bind_eq_ok.mpr ⟨reference, reference.readsBack isReference, rfl⟩)
      case h_4 =>
        rcases bind_eq_ok.mp read with ⟨association, isAssociation, same⟩
        cases same
        have ⟨caption, distinct, each⟩ := Association.of_decodeWith isAssociation
        have pivotFields : decodeEntries (decodeWithin bound) (encode association.pivotFields) =
            .ok association.pivotFields := by
          refine decodeEntries_eq_ok distinct fun entry member => ?_
          rcases each entry member with ⟨item, isItem⟩
          have nested := depth_pivotField_lt member
          exact induction isItem (by omega)
        exact (decodeTagged_bind (by decide) _ _).trans
          (bind_eq_ok.mpr ⟨association, Association.decodeWith_fields pivotFields caption, rfl⟩)
      case h_5 =>
        rcases bind_eq_ok.mp read with ⟨compound, isCompound, same⟩
        cases same
        exact (decodeTagged_bind (by decide) _ _).trans
          (bind_eq_ok.mpr ⟨compound, compound.readsBack isCompound, rfl⟩)
      case h_6 => cases read

instance : Stable Property :=
  ⟨fun reads => decodeWithin_encoded reads (Nat.le_refl _)⟩

instance : NeverNull Property where
  encode_ne_null property := by cases property <;> exact nofun

end Property

end Migration
