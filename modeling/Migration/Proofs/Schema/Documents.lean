import Migration.Proofs.Disk.Loading
import Migration.Proofs.Property.Documents

namespace Migration

open Json

/-! Schemas and change sets that have been loaded come back from the documents that they are
written as. -/

/-! ## Entities -/

instance : Lossless DeclaredIndex where
  readsBack _ := (decodeRecord_bind rfl (by decide) _).trans (by simp)

instance : Lossless Pair := ⟨fun _ => rfl⟩

instance : NeverNull Pair := ⟨nofun⟩

instance : Lossless TableOptions where
  readsBack _ := (decodeRecord_bind rfl (by decide) _).trans (by simp)

namespace Entity

theorem readsBack_of_parts {entity : Entity} (properties : ReadsBack entity.properties)
    (caption : ReadsBack entity.caption) : ReadsBack entity :=
  (decodeRecord_bind rfl (by decide) _).trans (by simp [properties, caption])

theorem parts_of_decode {document : Value} {entity : Entity}
    (reads : decode document = .ok entity) :
    ReadsBack entity.properties ∧ ReadsBack entity.caption := by
  simp only [decode, bind_eq_ok] at reads
  rcases reads with ⟨record, -, name, -, properties, isProperties, options, -, caption, isCaption,
    same⟩
  cases same
  have none : ReadsBack ([] : Keyed Property) := rfl
  exact ⟨Record.readsBack_of_orElse none isProperties, Record.readsBack_of_optional isCaption⟩

theorem readsBack_namedOr {entity : Entity} (reads : ReadsBack entity) (name : String) :
    ReadsBack (entity.namedOr name) := by
  have ⟨properties, caption⟩ := parts_of_decode reads
  rw [namedOr]
  split
  · exact readsBack_of_parts properties caption
  · exact reads

theorem namedOr_namedOr (entity : Entity) (name : String) :
    (entity.namedOr name).namedOr name = entity.namedOr name := by
  simp only [namedOr]
  split
  · simp
  · rfl

theorem namedOr_name (entity : Entity) : entity.namedOr entity.name = entity := by
  rw [namedOr]
  split <;> rfl

end Entity

instance : Stable Entity where
  readsBack reads := by
    have ⟨properties, caption⟩ := Entity.parts_of_decode reads
    exact Entity.readsBack_of_parts properties caption

/-! ## Schemas -/

instance : Lossless CompoundField where
  readsBack _ := (decodeRecord_bind rfl (by decide) _).trans
    (by simp [TypeHints.fields, TypeHints.ofRecord])

instance : Lossless CompoundType where
  readsBack _ := (decodeRecord_bind rfl (by decide) _).trans (by simp)

namespace Schema

/-- What a schema has that comes from documents: each entity has a name, or else the empty one is
also its key, and the standard compound types come first. -/
structure Settled (schema : Schema) : Prop where
  entities : EachReadsBack schema.entities
  named : ∀ entry ∈ schema.entities, entry.2.namedOr entry.1 = entry.2
  enums : EachReadsBack schema.enums
  compounds : ∃ declared, schema.compounds = CompoundType.standard.extend declared

theorem settled_empty : Settled {} :=
  ⟨.nil, (fun _ member => nomatch member), .nil, [], rfl⟩

theorem nodup_standard : CompoundType.standard.keys.Nodup := by
  decide

namespace Settled

variable {schema : Schema}

theorem eachReadsBack_compounds (settled : schema.Settled) : EachReadsBack schema.compounds := by
  rcases settled.compounds with ⟨declared, same⟩
  rw [same]
  exact ⟨Keyed.nodup_extend nodup_standard declared, fun _ _ => readsBack _⟩

theorem readsBack (settled : schema.Settled) : ReadsBack schema := by
  have document : decode (encode schema) =
      Except.ok (ε := Misfit) (SchemaDocument.mk schema.entities schema.enums schema.compounds) :=
    (decodeRecord_bind rfl (by decide) _).trans (by
      simp [settled.entities.readsBack, settled.enums.readsBack,
        settled.eachReadsBack_compounds.readsBack])
  have entities : (schema.entities.map fun entry => (entry.1, entry.2.namedOr entry.1)) =
      schema.entities :=
    ByKey.map_eq_self fun entry member => Prod.ext rfl (settled.named entry member)
  have compounds : CompoundType.standard.extend schema.compounds = schema.compounds := by
    rcases settled.compounds with ⟨declared, same⟩
    rw [same, Keyed.extend_extend_self nodup_standard]
  refine map_eq_ok.mpr ⟨_, document, ?_⟩
  exact congr (congrArg (Schema.mk · schema.enums) entities) compounds

end Settled

/-- In a document, an entity without a name takes its key. -/
theorem settled_of_decode {document : Value} {schema : Schema}
    (reads : decode document = .ok schema) : schema.Settled := by
  rcases map_eq_ok.mp reads with ⟨source, read, rfl⟩
  rcases bind_eq_ok.mp read with ⟨record, -, rest⟩
  rcases bind_eq_ok.mp rest with ⟨entities, isEntities, rest⟩
  rcases bind_eq_ok.mp rest with ⟨enums, isEnums, rest⟩
  rcases bind_eq_ok.mp rest with ⟨compounds, -, same⟩
  cases same
  rcases Record.of_requiredWith isEntities with ⟨given, isGiven⟩
  have whole : EachReadsBack entities := .of_decode isGiven
  refine ⟨⟨?_, ?_⟩, ?_, Record.eachReadsBack_of_orElse isEnums, compounds, rfl⟩
  · have keys : (entities.map fun entry => (entry.1, entry.2.namedOr entry.1)).map (·.1) =
        entities.keys := by simp [Keyed.keys]
    exact (congrArg List.Nodup keys).mpr whole.distinct
  · intro entry member
    rcases List.mem_map.mp member with ⟨known, isKnown, rfl⟩
    exact Entity.readsBack_namedOr (whole.each known isKnown) known.1
  · intro entry member
    rcases List.mem_map.mp member with ⟨known, -, rfl⟩
    exact known.2.namedOr_namedOr known.1

/-! ## Files -/

theorem Settled.addUnique {schema next : Schema} {entity : Entity} (settled : schema.Settled)
    (reads : ReadsBack entity) (added : schema.addUnique entity = .ok next) : next.Settled := by
  rw [Schema.addUnique] at added
  split at added
  case isTrue => cases added
  case isFalse =>
    cases added
    refine ⟨settled.entities.insert reads, ?_, settled.enums, settled.compounds⟩
    intro entry member
    rcases Keyed.mem_of_mem_insert member with known | rfl
    · exact settled.named entry known
    · exact entity.namedOr_name

theorem Settled.addFragment {schema next : Schema} {name : String} {document : Value}
    {fragment : Fragment} (settled : schema.Settled) (reads : decode document = .ok fragment)
    (added : schema.addFragment name fragment = .ok next) : next.Settled := by
  rcases decode_fragment_cases reads with ⟨source, read, rfl⟩ | ⟨-, entity, read, rfl⟩
  · have given : source.schema.Settled := settled_of_decode (map_eq_ok.mpr ⟨source, read, rfl⟩)
    rcases bind_eq_ok.mp added with ⟨whole, isWhole, same⟩
    cases same
    have ⟨entities, named, enums, declared, compounds⟩ : whole.Settled := by
      refine of_foldlM_eq_ok (fun entity member before after kept => ?_) settled isWhole
      rcases List.mem_map.mp member with ⟨entry, isEntry, rfl⟩
      exact kept.addUnique (given.entities.each entry isEntry)
    refine ⟨entities, named, enums.extend given.enums, ?_⟩
    exact ⟨declared ++ source.schema.compounds, by rw [compounds, Keyed.extend_append]⟩
  · exact settled.addUnique (Entity.readsBack_namedOr (Stable.readsBack read) _) added

theorem Settled.addFile {schema next : Schema} {found : Node.Found} (settled : schema.Settled)
    (added : schema.addFile found = .ok next) : next.Settled := by
  rcases bind_eq_ok.mp added with ⟨text, -, rest⟩
  rcases bind_eq_ok.mp rest with ⟨fragment, parsed, rest⟩
  rcases fromText_eq_ok.mp parsed with ⟨document, -, reads⟩
  split at rest
  case h_1 isAdded =>
    cases rest
    exact settled.addFragment reads isAdded
  case h_2 => cases rest

theorem settled_of_load {path : String} {node : Option Node} {schema : Schema}
    (loads : load path node = .ok schema) : schema.Settled := by
  rcases node with _ | ⟨content⟩ | ⟨entries⟩
  · cases loads
  · rcases bind_eq_ok.mp loads with ⟨text, -, parsed⟩
    rcases fromText_eq_ok.mp parsed with ⟨document, -, reads⟩
    exact settled_of_decode reads
  · exact of_foldlM_eq_ok (fun found _ before after kept => kept.addFile) settled_empty loads

/-- Read from a document or loaded from files. -/
def Loaded (schema : Schema) : Prop :=
  (∃ document : Value, decode document = .ok schema)
    ∨ ∃ path node, load path node = .ok schema

theorem Loaded.readsBack {schema : Schema} (loaded : schema.Loaded) : ReadsBack schema := by
  rcases loaded with ⟨document, reads⟩ | ⟨path, node, loads⟩
  · exact (settled_of_decode reads).readsBack
  · exact (settled_of_load loads).readsBack

end Schema

/-! ## Change sets -/

instance {α : Type} [Encode α] [Decode α] [Lossless α] : Lossless (Transition α) where
  readsBack _ := (decodeRecord_bind rfl (by decide) _).trans (by simp)

instance {α : Type} [Encode α] : NeverNull (Transition α) := ⟨nofun⟩

instance : Lossless OptionChanges where
  readsBack _ := (decodeRecord_bind rfl (by decide) _).trans (by simp)

instance : Lossless IndexChange where
  readsBack change := by
    cases change <;>
      exact (decodeTagged_bind (by decide) _ _).trans
        ((decodeRecord_bind rfl (by decide) _).trans (by simp))

instance : Stable PropertyChange where
  readsBack {document change} reads := by
    rcases bind_eq_ok.mp reads with ⟨⟨name, fields⟩, -, read⟩
    split at read
    case h_1 =>
      simp only [bind_eq_ok] at read
      rcases read with ⟨record, -, name, -, current, isCurrent, same⟩
      cases same
      have currentReads := Record.readsBack_of_required isCurrent
      exact (decodeTagged_bind (by decide) _ _).trans
        ((decodeRecord_bind rfl (by decide) _).trans (by simp [currentReads]))
    case h_2 =>
      simp only [bind_eq_ok] at read
      rcases read with ⟨record, -, name, -, previous, isPrevious, same⟩
      cases same
      have previousReads := Record.readsBack_of_required isPrevious
      exact (decodeTagged_bind (by decide) _ _).trans
        ((decodeRecord_bind rfl (by decide) _).trans (by simp [previousReads]))
    case h_3 =>
      simp only [bind_eq_ok] at read
      rcases read with ⟨record, -, name, -, previous, isPrevious, current, isCurrent, same⟩
      cases same
      have previousReads := Record.readsBack_of_optional isPrevious
      have currentReads := Record.readsBack_of_optional isCurrent
      exact (decodeTagged_bind (by decide) _ _).trans
        ((decodeRecord_bind rfl (by decide) _).trans (by simp [previousReads, currentReads]))
    case h_4 =>
      simp only [bind_eq_ok] at read
      rcases read with ⟨record, -, source, -, target, -, previous, isPrevious, current, isCurrent,
        same⟩
      cases same
      have previousReads := Record.readsBack_of_optional isPrevious
      have currentReads := Record.readsBack_of_optional isCurrent
      exact (decodeTagged_bind (by decide) _ _).trans
        ((decodeRecord_bind rfl (by decide) _).trans (by simp [previousReads, currentReads]))
    case h_5 => cases read

instance : Stable EntityChange where
  readsBack {document change} reads := by
    simp only [decode, bind_eq_ok] at reads
    rcases reads with ⟨record, -, entity, -, table, -, columns, isColumns, indexes, -, options, -,
      same⟩
    cases same
    have none : ReadsBack ([] : List PropertyChange) := rfl
    have columnsRead := Record.readsBack_of_orElse none isColumns
    exact (decodeRecord_bind rfl (by decide) _).trans (by simp [columnsRead])

instance : Stable ChangeSet where
  readsBack {document set} reads := by
    simp only [decode, bind_eq_ok] at reads
    rcases reads with ⟨record, -, changes, isChanges, removed, isRemoved, same⟩
    cases same
    have noChanges : ReadsBack ([] : List EntityChange) := rfl
    have noEntities : ReadsBack ([] : List Entity) := rfl
    have changesRead := Record.readsBack_of_orElse noChanges isChanges
    have removedReads := Record.readsBack_of_orElse noEntities isRemoved
    exact (decodeRecord_bind rfl (by decide) _).trans (by simp [changesRead, removedReads])

/-- Read from a document or loaded from a file. -/
def ChangeSet.Loaded (set : ChangeSet) : Prop :=
  (∃ document : Value, decode document = .ok set) ∨ ∃ path node, load path node = .ok set

theorem ChangeSet.Loaded.readsBack {set : ChangeSet} (loaded : set.Loaded) : ReadsBack set := by
  rcases loaded with ⟨document, reads⟩ | ⟨path, node, loads⟩
  · exact Stable.readsBack reads
  · cases node with
    | none => cases loads
    | some node =>
        rcases bind_eq_ok.mp loads with ⟨text, -, parsed⟩
        rcases fromText_eq_ok.mp parsed with ⟨document, -, reads⟩
        exact Stable.readsBack reads

end Migration
