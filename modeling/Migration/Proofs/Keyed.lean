import Migration.Keyed
import Migration.Proofs.ByKey

namespace Migration.Keyed

/-! What becomes of keys and values as entries are put into a map one after the other: a new key
goes to the end, and under a known one the last value counts. -/

variable {α : Type}

theorem get?_eq_none {entries : Keyed α} {key : String} :
    entries.get? key = none ↔ key ∉ entries.keys := by
  induction entries with
  | nil => simp [keys]
  | cons entry rest induction =>
      rcases entry with ⟨known, value⟩
      by_cases same : key = known
      · simp [get?_cons, keys, same]
      · simpa [get?_cons, keys, same] using induction

/-- Where the keys are distinct, each finds its own value. -/
theorem get?_of_mem {entries : Keyed α} (distinct : entries.keys.Nodup) {entry : String × α}
    (member : entry ∈ entries) : entries.get? entry.1 = some entry.2 := by
  rcases exists_get?_of_mem member with ⟨first, found⟩
  have same : (entry.1, first) = entry :=
    ByKey.single_of_nodup Prod.fst distinct _ (mem_of_get? found) entry member rfl
  rw [found, ← same]

/-- Two maps are the same if they have the same keys in the same order and the same values. -/
theorem ext_of_keys {left right : Keyed α} (distinct : left.keys.Nodup)
    (sameKeys : left.keys = right.keys) (found : ∀ key, left.get? key = right.get? key) :
    left = right := by
  induction left generalizing right with
  | nil => exact (List.map_eq_nil_iff.mp sameKeys.symm).symm
  | cons entry rest induction =>
      rcases entry with ⟨key, value⟩
      rcases right with _ | ⟨⟨otherKey, otherValue⟩, others⟩
      · simp [keys] at sameKeys
      · rcases List.cons_eq_cons.mp sameKeys with ⟨rfl, restKeys⟩
        rcases List.nodup_cons.mp distinct with ⟨fresh, restDistinct⟩
        have sameValue : value = otherValue := by simpa [get?_cons] using found key
        have restFound (sought : String) : get? rest sought = get? others sought := by
          by_cases same : sought = key
          · rw [get?_eq_none.mpr (same ▸ fresh), get?_eq_none.mpr]
            rw [keys, ← restKeys, same]
            exact fresh
          · simpa [get?_cons, same] using found sought
        rw [sameValue, induction restDistinct restKeys restFound]

/-! ## One entry -/

theorem nodup_insert {entries : Keyed α} (distinct : entries.keys.Nodup) (key : String)
    (value : α) : (entries.insert key value).keys.Nodup := by
  rw [keys_insert]
  split
  case isTrue => exact distinct
  case isFalse absent => exact List.nodup_append_comm.mp (List.nodup_cons.mpr ⟨absent, distinct⟩)

theorem insert_of_not_mem {entries : Keyed α} {key : String} (absent : key ∉ entries.keys)
    (value : α) : entries.insert key value = entries ++ [(key, value)] := by
  induction entries with
  | nil => rfl
  | cons entry rest induction =>
      rcases entry with ⟨known, old⟩
      have ⟨differs, restAbsent⟩ := not_or.mp (mt List.mem_cons.mpr absent)
      rw [insert, if_neg (Ne.symm differs), induction restAbsent]
      rfl

theorem mem_of_mem_insert {entries : Keyed α} {key : String} {value : α} {entry : String × α}
    (member : entry ∈ entries.insert key value) : entry ∈ entries ∨ entry = (key, value) := by
  induction entries with
  | nil => exact .inr (List.mem_singleton.mp member)
  | cons head rest induction =>
      rw [insert] at member
      split at member
      case isTrue same =>
        rcases List.mem_cons.mp member with isNew | later
        · exact .inr (same ▸ isNew)
        · exact .inl (List.mem_cons_of_mem _ later)
      case isFalse =>
        rcases List.mem_cons.mp member with rfl | later
        · exact .inl List.mem_cons_self
        · exact (induction later).imp_left (List.mem_cons_of_mem _)

/-! ## Several entries -/

theorem extend_cons (entries : Keyed α) (entry : String × α) (more : Keyed α) :
    entries.extend (entry :: more) = (entries.insert entry.1 entry.2).extend more := rfl

theorem extend_append (entries first second : Keyed α) :
    entries.extend (first ++ second) = (entries.extend first).extend second :=
  List.foldl_append

theorem nodup_extend {entries : Keyed α} (distinct : entries.keys.Nodup) (more : Keyed α) :
    (entries.extend more).keys.Nodup := by
  induction more generalizing entries with
  | nil => exact distinct
  | cons entry rest induction => exact induction (nodup_insert distinct entry.1 entry.2)

/-- However its entries are given, a map has each key once. -/
theorem nodup_ofList (entries : List (String × α)) : (ofList entries).keys.Nodup := by
  have empty : (keys ([] : Keyed α)).Nodup := List.nodup_nil
  exact nodup_extend empty entries

theorem mem_of_mem_extend {entries more : Keyed α} {entry : String × α}
    (member : entry ∈ entries.extend more) : entry ∈ entries ∨ entry ∈ more := by
  induction more generalizing entries with
  | nil => exact .inl member
  | cons head rest induction =>
      rcases induction member with inserted | later
      · rcases mem_of_mem_insert inserted with known | isNew
        · exact .inl known
        · exact .inr (isNew ▸ List.mem_cons_self)
      · exact .inr (List.mem_cons_of_mem _ later)

theorem keys_extend (entries more : Keyed α) :
    (entries.extend more).keys = ByKey.addAll id entries.keys more.keys := by
  induction more generalizing entries with
  | nil => rfl
  | cons entry rest induction =>
      have start : (entries.insert entry.1 entry.2).keys = ByKey.add id entries.keys entry.1 := by
        rw [keys_insert, ByKey.add]
        simp
      rw [extend_cons, induction, start]
      rfl

/-- What is put in last under a key is what is found there. -/
theorem get?_extend {more : Keyed α} (distinct : more.keys.Nodup) (entries : Keyed α)
    (key : String) : (entries.extend more).get? key = (more.get? key).or (entries.get? key) := by
  induction more generalizing entries with
  | nil => rfl
  | cons entry rest induction =>
      rcases entry with ⟨known, value⟩
      have ⟨fresh, restDistinct⟩ := List.nodup_cons.mp distinct
      rw [extend_cons, induction restDistinct, get?_insert, get?_cons]
      by_cases same : key = known
      · rw [if_pos same, if_pos same, get?_eq_none.mpr (same ▸ fresh), Option.none_or,
          Option.some_or]
      · rw [if_neg same, if_neg same]

/-- Entries under new and distinct keys are appended as they are. -/
theorem extend_of_new {entries more : Keyed α} (distinct : (entries.keys ++ more.keys).Nodup) :
    entries.extend more = entries ++ more := by
  induction more generalizing entries with
  | nil => exact (List.append_nil entries).symm
  | cons entry rest induction =>
      have absent : entry.1 ∉ entries.keys := by
        intro member
        exact (List.nodup_append.mp distinct).2.2 _ member _ List.mem_cons_self rfl
      rw [extend_cons, insert_of_not_mem absent, induction, List.append_assoc]
      · rfl
      · simpa [keys] using distinct

theorem ofList_of_nodup {entries : Keyed α} (distinct : entries.keys.Nodup) :
    ofList entries = entries :=
  @extend_of_new _ [] entries distinct

/-- Where entries are put in from the last to the first, the first of each key counts. -/
theorem get?_ofList_reverse (entries : List (String × α)) (key : String) :
    (ofList entries.reverse).get? key = get? entries key := by
  induction entries with
  | nil => rfl
  | cons entry rest induction =>
      have last : ofList (entry :: rest).reverse =
          (ofList rest.reverse).insert entry.1 entry.2 := by
        rw [List.reverse_cons, ofList, extend_append]
        rfl
      rw [last, get?_insert, get?_cons, induction]

/-- To put a map's own entries into the map that it came from changes nothing. -/
theorem extend_extend_self {entries : Keyed α} (distinct : entries.keys.Nodup) (more : Keyed α) :
    entries.extend (entries.extend more) = entries.extend more := by
  have wholeDistinct := nodup_extend distinct more
  apply ext_of_keys (nodup_extend distinct _)
  · rw [keys_extend, keys_extend]
    rcases ByKey.exists_new_addAll_eq_append id entries.keys more.keys with
      ⟨added, _, whole, addedDistinct, free⟩
    rw [whole, ← ByKey.addAll_addAll, ByKey.addAll_of_known id fun key => ByKey.mem_keys_of_mem id]
    exact ByKey.addAll_eq_append id free addedDistinct
  · intro key
    rw [get?_extend wholeDistinct]
    cases found : (entries.extend more).get? key with
    | some value => rfl
    | none =>
        rw [Option.none_or, get?_eq_none]
        have absent := get?_eq_none.mp found
        rw [keys_extend] at absent
        exact fun member => absent (ByKey.subset_addAll id _ _ member)

end Migration.Keyed
