import Migration.Proofs.Json.ReadBack

namespace Migration.Json

/-! Records and tagged records that are written and then read: the fields are found again under
their names, whichever of them have been left out. -/

variable {α β : Type}

/-! ## Names of fields -/

/-- The record has at most one field for each of the names, in their order. -/
class Within (record : Record) (names : outParam (List String)) : Prop where
  sublist : (record.map (·.1)).Sublist names

instance [Encode α] (name : String) (value : α) : Within (field name value) [name] :=
  ⟨List.Sublist.refl [name]⟩

instance [Encode α] (name : String) (value : Option α) :
    Within (optionalField name value) [name] where
  sublist := by cases value <;> simp [optionalField, field]

instance [Encode α] (name : String) (values : List α) :
    Within (listField name values) [name] where
  sublist := by cases values <;> simp [listField, field]

instance [Encode α] (name : String) (entries : Keyed α) :
    Within (entriesField name entries) [name] where
  sublist := by cases entries <;> simp [entriesField]

instance (first second : Record) (firstNames secondNames : List String)
    [within : Within first firstNames] [rest : Within second secondNames] :
    Within (first ++ second) (firstNames ++ secondNames) where
  sublist := by
    rw [List.map_append]
    exact within.sublist.append rest.sublist

theorem firstRepeated_eq_none {names : List String} (distinct : names.Nodup) :
    firstRepeated names = none := by
  induction names with
  | nil => rfl
  | cons name rest induction =>
      have ⟨fresh, restDistinct⟩ := List.nodup_cons.mp distinct
      rw [firstRepeated, if_neg (by simpa using fresh), induction restDistinct]

theorem decodeRecord_object {record : Record} {names written : List String}
    [within : Within record written] (same : written = names) (distinct : names.Nodup) :
    decodeRecord names (.object record) = .ok record := by
  have sublist := same ▸ within.sublist
  have known : record.filter (fun member => names.contains member.1) = record := by
    rw [List.filter_eq_self]
    intro member isMember
    simpa using sublist.subset (List.mem_map_of_mem isMember)
  simp only [decodeRecord, known, firstRepeated_eq_none (distinct.sublist sublist)]

/-- A record that has been written is the record that is read. -/
theorem decodeRecord_bind {record : Record} {names written : List String}
    [Within record written] (same : written = names) (distinct : names.Nodup)
    (next : Record → Except Misfit β) :
    (decodeRecord names (.object record) >>= next) = next record := by
  rw [decodeRecord_object same distinct]
  rfl

theorem decodeTagged_tagged {tag : String} {fields : Record} {written : List String}
    [within : Within fields written] (other : tag ∉ written) (name : String) :
    decodeTagged tag (tagged tag name fields) = .ok (name, .object fields) := by
  have untagged : ∀ member ∈ fields, member.1 ≠ tag := by
    intro member isMember same
    exact other (same ▸ within.sublist.subset (List.mem_map_of_mem isMember))
  have none : fields.filter (·.1 = tag) = [] := by simpa using untagged
  have all : fields.filter (·.1 ≠ tag) = fields := by simpa using untagged
  simp only [decodeTagged, tagged, List.filter_cons, decide_true, if_true, none, ne_eq,
    not_true_eq_false, decide_false, Bool.false_eq_true, if_false]
  exact congrArg (fun rest => Except.ok (name, Value.object rest)) all

theorem decodeTagged_bind {tag : String} {fields : Record} {written : List String}
    [Within fields written] (other : tag ∉ written) (name : String)
    (next : String × Value → Except Misfit β) :
    (decodeTagged tag (tagged tag name fields) >>= next) = next (name, .object fields) := by
  rw [decodeTagged_tagged other]
  rfl

/-! ## What is found under a name -/

attribute [simp] List.lookup_append

/-- What is written of a list that is left out if it is empty. -/
def unlessEmpty [Encode (List α)] (values : List α) : Option Value :=
  if values.isEmpty then none else some (encode values)

theorem lookup_single (name other : String) (document : Value) :
    List.lookup other [(name, document)] = if other = name then some document else none :=
  Keyed.get?_cons name document [] other

@[simp] theorem lookup_field [Encode α] (name other : String) (value : α) :
    (field name value).lookup other = if other = name then some (encode value) else none :=
  lookup_single name other (encode value)

@[simp] theorem lookup_optionalField [Encode α] (name other : String) (value : Option α) :
    (optionalField name value).lookup other =
      if other = name then value.map encode else none := by
  cases value with
  | none => simp [optionalField]
  | some value => exact lookup_field name other value

@[simp] theorem lookup_listField [Encode α] (name other : String) (values : List α) :
    (listField name values).lookup other =
      if other = name then unlessEmpty values else none := by
  cases values with
  | nil => simp [listField, unlessEmpty]
  | cons value rest => exact lookup_field name other (value :: rest)

@[simp] theorem lookup_entriesField [Encode α] (name other : String) (entries : Keyed α) :
    (entriesField name entries).lookup other =
      if other = name then unlessEmpty entries else none := by
  cases entries with
  | nil => simp [entriesField, unlessEmpty]
  | cons entry rest => exact lookup_single name other (encode (entry :: rest))

/-! ## What is read from a field -/

namespace Record

@[simp] theorem required_eq [Decode α] (record : Record) (name : String) :
    (record.required name : Except Misfit α) =
      (record.lookup name).elim (.error (.missing name)) decode := by
  rw [required, requiredWith]
  cases record.lookup name <;> rfl

@[simp] theorem withDefault_eq (record : Record) (name : String) (absent : α)
    (decode : Value → Except Misfit α) :
    record.withDefault name absent decode = (record.lookup name).elim (.ok absent) decode := by
  rw [withDefault]
  cases record.lookup name <;> rfl

@[simp] theorem optional_eq [Decode α] (record : Record) (name : String) :
    (record.optional name : Except Misfit (Option α)) =
      (record.lookup name).elim (.ok none) decode :=
  withDefault_eq record name none decode

@[simp] theorem orElse_eq [Decode α] (record : Record) (name : String) (absent : α) :
    record.orElse name absent = (record.lookup name).elim (.ok absent) decode :=
  withDefault_eq record name absent decode

end Record

@[simp] theorem decode_encode [Encode α] [Decode α] {value : α} (reads : ReadsBack value) :
    decode (encode value) = (.ok value : Except Misfit α) :=
  reads

@[simp] theorem elim_decode_encode [Encode α] [Decode α] {value : Option α}
    (reads : ReadsBack value) :
    value.elim (.ok none) (decode ∘ encode) = (.ok value : Except Misfit (Option α)) := by
  cases value with
  | none => rfl
  | some value => exact reads

@[simp] theorem elim_unlessEmpty [Encode (List α)] {values : List α}
    {read : Value → Except Misfit (List α)} (reads : read (encode values) = .ok values) :
    (unlessEmpty values).elim (.ok []) read = .ok values := by
  cases values with
  | nil => rfl
  | cons value rest => exact reads

@[simp] theorem ok_bind {ε : Type} (value : α) (next : α → Except ε β) :
    (Except.ok value >>= next) = next value := rfl

@[simp] theorem pure_eq_ok {ε : Type} (value : α) : (pure value : Except ε α) = .ok value := rfl

/-! ## What has been read from a field -/

namespace Record

theorem of_requiredWith {record : Record} {name : String} {decode : Value → Except Misfit α}
    {value : α} (reads : record.requiredWith name decode = .ok value) :
    ∃ document, decode document = .ok value := by
  rw [requiredWith] at reads
  split at reads
  case h_1 document _ => exact ⟨document, reads⟩
  case h_2 => cases reads

theorem of_withDefault {record : Record} {name : String} {absent : α}
    {decode : Value → Except Misfit α} {value : α}
    (reads : record.withDefault name absent decode = .ok value) :
    value = absent ∨ ∃ document, decode document = .ok value := by
  rw [withDefault] at reads
  split at reads
  case h_1 document _ => exact .inr ⟨document, reads⟩
  case h_2 =>
    cases reads
    exact .inl rfl

section

variable [Encode α] [Decode α] {record : Record} {name : String}

theorem readsBack_of_required [Stable α] {value : α}
    (reads : record.required name = .ok value) : ReadsBack value := by
  rcases of_requiredWith reads with ⟨document, read⟩
  exact Stable.readsBack read

theorem readsBack_of_orElse [Stable α] {value absent : α} (absentReads : ReadsBack absent)
    (reads : record.orElse name absent = .ok value) : ReadsBack value := by
  rcases of_withDefault reads with rfl | ⟨document, read⟩
  · exact absentReads
  · exact Stable.readsBack read

theorem eachReadsBack_of_orElse [Stable α] {entries : Keyed α}
    (reads : record.orElse name [] = .ok entries) : EachReadsBack entries := by
  rcases of_withDefault reads with rfl | ⟨document, read⟩
  · exact .nil
  · exact .of_decode read

theorem readsBack_of_optional [Stable (Option α)] {value : Option α}
    (reads : record.optional name = .ok value) : ReadsBack value :=
  readsBack_of_orElse readsBack_none reads

end

end Record

end Migration.Json
