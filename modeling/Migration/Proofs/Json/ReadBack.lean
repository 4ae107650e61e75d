import Migration.Proofs.Keyed
import Migration.Json.Coding

namespace Migration.Json

/-! What is written down as a document and then read. Of most types every value comes back. A map
comes back only if it has each key once, which is so for every map that has been read; of the types
with maps in them it is therefore what has been read that comes back. -/

variable {α β ε : Type}

/-! ## Results -/

theorem bind_eq_ok {result : Except ε α} {next : α → Except ε β} {value : β} :
    (result >>= next) = .ok value ↔ ∃ first, result = .ok first ∧ next first = .ok value := by
  cases result with
  | error failure => exact ⟨nofun, nofun⟩
  | ok first =>
      constructor
      · exact fun rest => ⟨first, rfl, rest⟩
      · rintro ⟨other, same, rest⟩
        cases same
        exact rest

theorem map_eq_ok {result : Except ε α} {function : α → β} {value : β} :
    function <$> result = .ok value ↔ ∃ first, result = .ok first ∧ function first = value := by
  cases result with
  | error failure => exact ⟨nofun, nofun⟩
  | ok first => simp [Functor.map, Except.map]

theorem mapM_eq_ok {items : List α} {values : List β} {function : α → Except ε β} :
    items.mapM function = .ok values ↔
      List.Forall₂ (fun item value => function item = .ok value) items values := by
  induction items generalizing values with
  | nil => cases values <;> simp [pure, Except.pure]
  | cons item rest induction =>
      rw [List.mapM_cons, bind_eq_ok]
      simp only [bind_eq_ok, induction, List.forall₂_cons_left_iff]
      constructor
      · rintro ⟨value, first, others, each, same⟩
        cases same
        exact ⟨value, others, first, each, rfl⟩
      · rintro ⟨value, others, first, each, rfl⟩
        exact ⟨value, first, others, each, rfl⟩

/-- Each of the values has been read from something. -/
theorem exists_of_mapM_eq_ok {items : List α} {values : List β} {function : α → Except ε β}
    (each : items.mapM function = .ok values) {value : β} (member : value ∈ values) :
    ∃ item ∈ items, function item = .ok value := by
  rw [mapM_eq_ok] at each
  induction each with
  | nil => cases member
  | cons first _ induction =>
      rcases List.mem_cons.mp member with rfl | later
      · exact ⟨_, List.mem_cons_self, first⟩
      · rcases induction later with ⟨item, itemMember, read⟩
        exact ⟨item, List.mem_cons_of_mem _ itemMember, read⟩

/-- What each step keeps holds after all of them. -/
theorem of_foldlM_eq_ok {step : β → α → Except ε β} {motive : β → Prop} {items : List α}
    (kept : ∀ item ∈ items, ∀ {before after}, motive before → step before item = .ok after →
      motive after)
    {start result : β} (holds : motive start) (run : items.foldlM step start = .ok result) :
    motive result := by
  induction items generalizing start with
  | nil =>
      cases run
      exact holds
  | cons item rest induction =>
      rcases bind_eq_ok.mp run with ⟨next, first, others⟩
      exact induction (fun other member => kept other (List.mem_cons_of_mem _ member))
        (kept item List.mem_cons_self holds first) others

/-! ## Values that come back -/

def ReadsBack [Encode α] [Decode α] (value : α) : Prop :=
  decode (encode value) = .ok value

/-- Every value comes back. -/
class Lossless (α : Type) [Encode α] [Decode α] : Prop where
  readsBack : ∀ value : α, ReadsBack value

/-- What has been read comes back. -/
class Stable (α : Type) [Encode α] [Decode α] : Prop where
  readsBack : ∀ {document : Value} {value : α}, decode document = .ok value → ReadsBack value

/-- No value is written as `null`, which stands for a value that is not there. -/
class NeverNull (α : Type) [Encode α] : Prop where
  encode_ne_null : ∀ value : α, encode value ≠ .null

@[simp] theorem readsBack [Encode α] [Decode α] [Lossless α] (value : α) : ReadsBack value :=
  Lossless.readsBack value

instance [Encode α] [Decode α] [Lossless α] : Stable α :=
  ⟨fun {_ value} _ => Lossless.readsBack value⟩

instance : Lossless Bool := ⟨fun _ => rfl⟩

instance : NeverNull Bool := ⟨fun _ => nofun⟩

instance : Lossless String := ⟨fun _ => rfl⟩

instance : NeverNull String := ⟨fun _ => nofun⟩

instance : Lossless UInt32 where
  readsBack number := by
    have inRange : (0 : Int) ≤ number.toNat ∧ (number.toNat : Int) < UInt32.size :=
      ⟨Int.natCast_nonneg _, Int.ofNat_lt.mpr number.toNat_lt_size⟩
    have read : (decode (encode number) : Except Misfit UInt32) =
        if 0 ≤ (number.toNat : Int) ∧ (number.toNat : Int) < UInt32.size then
          .ok (.ofNat (number.toNat : Int).toNat)
        else .error (.unexpected "a whole number of 32 bits") := rfl
    rw [ReadsBack, read, if_pos inRange, Int.toNat_natCast, UInt32.ofNat_toNat]

instance : NeverNull UInt32 := ⟨fun _ => nofun⟩

/-! ## Optional values and lists -/

theorem decode_option_of_ne_null [Decode α] {document : Value} (present : document ≠ .null) :
    (decode document : Except Misfit (Option α)) = some <$> decode document := by
  cases document with
  | null => exact absurd rfl present
  | _ => rfl

theorem readsBack_some [Encode α] [Decode α] {value : α} (reads : ReadsBack value)
    (present : encode value ≠ .null) : ReadsBack (some value) := by
  have written : encode (some value) = encode value := rfl
  rw [ReadsBack, written, decode_option_of_ne_null present, reads]
  rfl

@[simp] theorem readsBack_none [Encode α] [Decode α] : ReadsBack (none : Option α) := rfl

instance [Encode α] [Decode α] [Lossless α] [NeverNull α] : Lossless (Option α) where
  readsBack
    | none => readsBack_none
    | some value => readsBack_some (readsBack value) (NeverNull.encode_ne_null value)

instance [Encode α] [Decode α] [Stable α] [NeverNull α] : Stable (Option α) where
  readsBack {document value} given := by
    cases value with
    | none => exact readsBack_none
    | some value =>
        have present : document ≠ .null := by
          rintro rfl
          exact nomatch given
        rw [decode_option_of_ne_null present] at given
        rcases map_eq_ok.mp given with ⟨_, read, same⟩
        cases same
        exact readsBack_some (Stable.readsBack read) (NeverNull.encode_ne_null _)

theorem readsBack_list [Encode α] [Decode α] {values : List α}
    (each : ∀ value ∈ values, ReadsBack value) : ReadsBack values := by
  have written : List.Forall₂ (fun item value => (decode item : Except Misfit α) = .ok value)
      (values.map encode) values :=
    List.forall₂_map_left_iff.mpr (List.forall₂_same.mpr each)
  exact mapM_eq_ok.mpr written

instance [Encode α] [Decode α] [Lossless α] : Lossless (List α) :=
  ⟨fun _ => readsBack_list fun value _ => readsBack value⟩

instance [Encode α] [Decode α] [Stable α] : Stable (List α) where
  readsBack {document values} given := by
    cases document with
    | array items =>
        apply readsBack_list
        intro value member
        rcases exists_of_mapM_eq_ok given member with ⟨item, _, read⟩
        exact Stable.readsBack read
    | _ => exact nomatch given

/-! ## Maps -/

/-- With each key once, a map comes back if its values do. -/
theorem decodeEntries_eq_ok [Encode α] {read : Value → Except Misfit α} {entries : Keyed α}
    (distinct : entries.keys.Nodup)
    (each : ∀ entry ∈ entries, read (encode entry.2) = .ok entry.2) :
    decodeEntries read (encode entries) = .ok entries := by
  have written : (entries.map fun entry => (entry.1, encode entry.2)).mapM
      (fun member => do return (member.1, ← read member.2)) = .ok entries := by
    refine mapM_eq_ok.mpr (List.forall₂_map_left_iff.mpr (List.forall₂_same.mpr ?_))
    intro entry member
    rw [each entry member]
    rfl
  exact bind_eq_ok.mpr
    ⟨entries, written, congrArg Except.ok (Keyed.ofList_of_nodup distinct)⟩

/-- A map that has been read has each key once, and each of its values has been read. -/
theorem of_decodeEntries_eq_ok {read : Value → Except Misfit α} {document : Value}
    {entries : Keyed α} (given : decodeEntries read document = .ok entries) :
    entries.keys.Nodup ∧ ∀ entry ∈ entries, ∃ item, read item = .ok entry.2 := by
  cases document with
  | object members =>
      rcases bind_eq_ok.mp given with ⟨raw, each, same⟩
      cases same
      refine ⟨Keyed.nodup_ofList raw, ?_⟩
      intro entry member
      rcases Keyed.mem_of_mem_extend member with known | given
      · cases known
      · rcases exists_of_mapM_eq_ok each given with ⟨⟨name, item⟩, _, read⟩
        rcases bind_eq_ok.mp read with ⟨value, isRead, same⟩
        cases same
        exact ⟨item, isRead⟩
  | _ => exact nomatch given

/-- A map with each key once whose values come back. -/
structure EachReadsBack [Encode α] [Decode α] (entries : Keyed α) : Prop where
  distinct : entries.keys.Nodup
  each : ∀ entry ∈ entries, ReadsBack entry.2

namespace EachReadsBack

variable [Encode α] [Decode α] {entries more : Keyed α}

theorem nil : EachReadsBack ([] : Keyed α) :=
  ⟨List.nodup_nil, fun _ member => nomatch member⟩

theorem readsBack (whole : EachReadsBack entries) : ReadsBack entries :=
  decodeEntries_eq_ok whole.distinct whole.each

theorem of_decode [Stable α] {document : Value} (reads : decode document = .ok entries) :
    EachReadsBack entries := by
  have ⟨distinct, each⟩ := of_decodeEntries_eq_ok reads
  refine ⟨distinct, fun entry member => ?_⟩
  rcases each entry member with ⟨item, read⟩
  exact Stable.readsBack read

theorem insert (whole : EachReadsBack entries) {key : String} {value : α}
    (reads : ReadsBack value) : EachReadsBack (entries.insert key value) := by
  refine ⟨Keyed.nodup_insert whole.distinct key value, fun entry member => ?_⟩
  rcases Keyed.mem_of_mem_insert member with known | rfl
  · exact whole.each entry known
  · exact reads

theorem extend (whole : EachReadsBack entries) (others : EachReadsBack more) :
    EachReadsBack (entries.extend more) := by
  refine ⟨Keyed.nodup_extend whole.distinct more, fun entry member => ?_⟩
  rcases Keyed.mem_of_mem_extend member with known | added
  · exact whole.each entry known
  · exact others.each entry added

end EachReadsBack

instance [Encode α] [Decode α] [Stable α] : Stable (Keyed α) :=
  ⟨fun reads => (EachReadsBack.of_decode reads).readsBack⟩

end Migration.Json
