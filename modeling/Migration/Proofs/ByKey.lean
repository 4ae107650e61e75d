import Mathlib.Data.List.Perm.Basic
import Mathlib.Data.List.Nodup

namespace Migration.ByKey

/-! Lists of values known by a key. Where the keys are distinct, such a list is up to its order
what is found under each key, and the operations on it are equations about what is found. -/

variable {α κ : Type} (key : α → κ)

def keys (values : List α) : List κ :=
  values.map key

@[simp] theorem keys_nil : keys key [] = [] := rfl

@[simp] theorem keys_cons (value : α) (rest : List α) :
    keys key (value :: rest) = key value :: keys key rest := rfl

theorem mem_keys {values : List α} {sought : κ} :
    sought ∈ keys key values ↔ ∃ value ∈ values, key value = sought :=
  List.mem_map

theorem mem_keys_of_mem {values : List α} {value : α} (member : value ∈ values) :
    key value ∈ keys key values :=
  List.mem_map_of_mem member

theorem map_eq_self {change : α → α} {values : List α}
    (same : ∀ value ∈ values, change value = value) : values.map change = values := by
  have unchanged : values.map change = values.map id := List.map_congr_left same
  rw [unchanged, List.map_id]

/-- No two of the values differ and have the same key. -/
def Single (values : List α) : Prop :=
  ∀ left ∈ values, ∀ right ∈ values, key left = key right → left = right

theorem single_of_nodup {values : List α} (distinct : (keys key values).Nodup) :
    Single key values :=
  fun _ leftMember _ rightMember same =>
    List.inj_on_of_nodup_map distinct leftMember rightMember same

theorem Single.sublist {values part : List α} (single : Single key values)
    (sublist : part.Sublist values) : Single key part :=
  fun left leftMember right rightMember =>
    single left (sublist.subset leftMember) right (sublist.subset rightMember)

theorem single_of_length_le_one {values : List α} (short : values.length ≤ 1) :
    Single key values := by
  match values, short with
  | [], _ => simp [Single]
  | [value], _ => simp [Single]

variable [DecidableEq κ]

/-- The first value with the key. -/
def find? (values : List α) (sought : κ) : Option α :=
  values.find? (key · = sought)

/-- Of values with one key the first stays. -/
def add (values : List α) (value : α) : List α :=
  if values.any (key · = key value) then values else values ++ [value]

def addAll (values more : List α) : List α :=
  more.foldl (add key) values

@[simp] theorem addAll_nil (values : List α) : addAll key values [] = values := rfl

def drop (values : List α) (keys : List κ) : List α :=
  values.filter (key · ∉ keys)

/-! ## What is found -/

theorem find?_cons (value : α) (rest : List α) (sought : κ) :
    find? key (value :: rest) sought =
      if key value = sought then some value else find? key rest sought := by
  by_cases same : key value = sought <;> simp [find?, same]

theorem find?_append (left right : List α) (sought : κ) :
    find? key (left ++ right) sought = (find? key left sought).or (find? key right sought) :=
  List.find?_append

theorem find?_eq_none {values : List α} {sought : κ} :
    find? key values sought = none ↔ sought ∉ keys key values := by
  simp [find?, keys]

theorem mem_of_find? {values : List α} {sought : κ} {value : α}
    (found : find? key values sought = some value) : value ∈ values ∧ key value = sought :=
  ⟨List.mem_of_find?_eq_some found, by simpa using List.find?_some found⟩

theorem find?_of_mem {values : List α} (single : Single key values) {value : α}
    (member : value ∈ values) : find? key values (key value) = some value := by
  cases found : find? key values (key value) with
  | none =>
      have missing := (find?_eq_none key).mp found
      exact absurd (mem_keys_of_mem key member) missing
  | some other =>
      have ⟨otherMember, sameKey⟩ := mem_of_find? key found
      rw [single other otherMember value member sameKey]

/-- To be found is to be there. -/
theorem find?_eq_some_iff {values : List α} (single : Single key values) {sought : κ} {value : α} :
    find? key values sought = some value ↔ value ∈ values ∧ key value = sought := by
  constructor
  · exact mem_of_find? key
  · rintro ⟨member, rfl⟩
    exact find?_of_mem key single member

theorem mem_iff_find? {values : List α} (single : Single key values) {value : α} :
    value ∈ values ↔ find? key values (key value) = some value := by
  rw [find?_eq_some_iff key single, and_iff_left rfl]

theorem find?_of_perm {left right : List α} (distinct : (keys key left).Nodup)
    (perm : left.Perm right) (sought : κ) : find? key left sought = find? key right sought := by
  have rightDistinct : (keys key right).Nodup := (perm.map key).nodup_iff.mp distinct
  apply Option.ext
  intro value
  rw [find?_eq_some_iff key (single_of_nodup key distinct),
    find?_eq_some_iff key (single_of_nodup key rightDistinct), perm.mem_iff]

/-- Two lists of distinct keys are the same up to order if they answer every key alike. -/
theorem perm_of_find? {left right : List α} (leftDistinct : (keys key left).Nodup)
    (rightDistinct : (keys key right).Nodup)
    (alike : ∀ sought, find? key left sought = find? key right sought) : left.Perm right := by
  rw [List.perm_ext_iff_of_nodup leftDistinct.of_map rightDistinct.of_map]
  intro value
  rw [mem_iff_find? key (single_of_nodup key leftDistinct),
    mem_iff_find? key (single_of_nodup key rightDistinct), alike]

/-! ## Adding -/

theorem add_of_not_mem {values : List α} {value : α} (absent : key value ∉ keys key values) :
    add key values value = values ++ [value] := by
  have missing : ¬values.any (key · = key value) = true := by simpa [keys] using absent
  rw [add, if_neg missing]

theorem find?_add (values : List α) (value : α) (sought : κ) :
    find? key (add key values value) sought =
      (find? key values sought).or (if key value = sought then some value else none) := by
  rw [add]
  split
  case isTrue present =>
    by_cases same : key value = sought
    · have present : sought ∈ keys key values := by simpa [keys, same] using present
      cases found : find? key values sought with
      | none => exact absurd present ((find?_eq_none key).mp found)
      | some _ => rfl
    · simp [same]
  case isFalse =>
    rw [find?_append, find?_cons]
    rfl

theorem find?_addAll (values more : List α) (sought : κ) :
    find? key (addAll key values more) sought =
      (find? key values sought).or (find? key more sought) := by
  induction more generalizing values with
  | nil => simp [addAll, find?]
  | cons value rest induction =>
      change find? key (addAll key (add key values value) rest) sought = _
      rw [induction, find?_add, find?_cons, Option.or_assoc]
      by_cases same : key value = sought <;> simp [same]

theorem addAll_addAll (values first second : List α) :
    addAll key (addAll key values first) second = addAll key values (first ++ second) :=
  List.foldl_append.symm

/-- A change that keeps the keys may come before the values are added or after. -/
theorem map_addAll {change : α → α} (kept : ∀ value, key (change value) = key value)
    (values more : List α) :
    (addAll key values more).map change = addAll key (values.map change) (more.map change) := by
  induction more generalizing values with
  | nil => rfl
  | cons value rest induction =>
      have step : (add key values value).map change =
          add key (values.map change) (change value) := by
        simp only [add, List.any_map, Function.comp_def, kept]
        split <;> simp
      change (addAll key (add key values value) rest).map change =
        addAll key (add key (values.map change) (change value)) (rest.map change)
      rw [induction, step]

/-- What is there stays in front, and behind it comes some of the rest, under keys that are new
and distinct. -/
theorem exists_new_addAll_eq_append (values more : List α) :
    ∃ added ⊆ more, addAll key values more = values ++ added ∧ (keys key added).Nodup
      ∧ ∀ value ∈ added, key value ∉ keys key values := by
  induction more generalizing values with
  | nil => exact ⟨[], List.Subset.refl [], by simp [addAll], List.nodup_nil, by simp⟩
  | cons value rest induction =>
      rcases induction (add key values value) with ⟨added, given, whole, distinct, free⟩
      have start : addAll key values (value :: rest) = addAll key (add key values value) rest := rfl
      by_cases present : key value ∈ keys key values
      · have known : add key values value = values := by
          rw [add, if_pos (by simpa [keys] using present)]
        rw [known] at whole free start
        exact ⟨added, List.subset_cons_of_subset value given, start.trans whole, distinct, free⟩
      · rw [add_of_not_mem key present] at whole free start
        have freeBoth (other : α) (member : other ∈ added) :
            key other ∉ keys key values ∧ key other ≠ key value := by
          simpa [keys] using free other member
        refine ⟨value :: added, List.cons_subset_cons value given, ?_, ?_, ?_⟩
        · rw [start, whole, List.append_assoc, List.singleton_append]
        · refine List.nodup_cons.mpr ⟨fun member => ?_, distinct⟩
          rcases (mem_keys key).mp member with ⟨other, otherMember, same⟩
          exact (freeBoth other otherMember).2 same
        · exact List.forall_mem_cons.mpr ⟨present, fun other member => (freeBoth other member).1⟩

theorem exists_addAll_eq_append (values more : List α) :
    ∃ added ⊆ more, addAll key values more = values ++ added := by
  rcases exists_new_addAll_eq_append key values more with ⟨added, given, whole, _⟩
  exact ⟨added, given, whole⟩

theorem subset_addAll (values more : List α) : values ⊆ addAll key values more := by
  rcases exists_addAll_eq_append key values more with ⟨added, _, whole⟩
  rw [whole]
  exact List.subset_append_left values added

theorem addAll_subset (values more : List α) : addAll key values more ⊆ values ++ more := by
  rcases exists_addAll_eq_append key values more with ⟨added, given, whole⟩
  rw [whole]
  exact List.append_subset.mpr
    ⟨List.subset_append_left values more, List.subset_append_of_subset_right values given⟩

theorem nodup_add {values : List α} (distinct : (keys key values).Nodup) (value : α) :
    (keys key (add key values value)).Nodup := by
  by_cases present : key value ∈ keys key values
  · have known : values.any (key · = key value) = true := by simpa [keys] using present
    rwa [add, if_pos known]
  · rw [add_of_not_mem key present]
    simpa [keys, List.nodup_append] using ⟨distinct, by simpa [keys] using present⟩

theorem nodup_addAll {values : List α} (distinct : (keys key values).Nodup) (more : List α) :
    (keys key (addAll key values more)).Nodup := by
  induction more generalizing values with
  | nil => exact distinct
  | cons value rest induction => exact induction (nodup_add key distinct value)

theorem nodup_addAll_nil (more : List α) : (keys key (addAll key [] more)).Nodup := by
  apply nodup_addAll
  rw [keys_nil]
  exact List.nodup_nil

/-- Added to nothing, a value stays if it is the first with its key. -/
theorem mem_addAll_nil {values : List α} {value : α} :
    value ∈ addAll key [] values ↔ find? key values (key value) = some value := by
  have single := single_of_nodup key (nodup_addAll_nil key values)
  have found : find? key (addAll key [] values) (key value) = find? key values (key value) :=
    find?_addAll key [] values (key value)
  rw [mem_iff_find? key single, found]

theorem perm_add {left right : List α} (distinct : (keys key left).Nodup)
    (perm : left.Perm right) (value : α) : (add key left value).Perm (add key right value) := by
  have rightDistinct : (keys key right).Nodup := (perm.map key).nodup_iff.mp distinct
  apply perm_of_find? key (nodup_add key distinct value) (nodup_add key rightDistinct value)
  intro sought
  rw [find?_add, find?_add, find?_of_perm key distinct perm]

theorem perm_addAll {left right : List α} (distinct : (keys key left).Nodup)
    (perm : left.Perm right) (more : List α) :
    (addAll key left more).Perm (addAll key right more) := by
  induction more generalizing left right with
  | nil => exact perm
  | cons value rest induction =>
      exact induction (nodup_add key distinct value) (perm_add key distinct perm value)

theorem mem_keys_addAll (values more : List α) (sought : κ) :
    sought ∈ keys key (addAll key values more) ↔
      sought ∈ keys key values ∨ sought ∈ keys key more := by
  have found := find?_addAll key values more sought
  have absent : sought ∉ keys key (addAll key values more) ↔
      sought ∉ keys key values ∧ sought ∉ keys key more := by
    rw [← find?_eq_none, ← find?_eq_none, ← find?_eq_none, found, Option.or_eq_none_iff]
  tauto

/-- Values of known keys are passed over. -/
theorem addAll_of_known {values more : List α}
    (known : ∀ value ∈ more, key value ∈ keys key values) : addAll key values more = values := by
  induction more with
  | nil => rfl
  | cons value rest induction =>
      have present : values.any (key · = key value) = true := by
        simpa [keys] using known value List.mem_cons_self
      change addAll key (add key values value) rest = values
      rw [add, if_pos present]
      exact induction fun other member => known other (List.mem_cons_of_mem _ member)

/-- Values of new and distinct keys are appended as they are. -/
theorem addAll_eq_append {values more : List α} (free : ∀ value ∈ more, key value ∉ keys key values)
    (distinct : (keys key more).Nodup) : addAll key values more = values ++ more := by
  induction more generalizing values with
  | nil => simp [addAll]
  | cons value rest induction =>
      have ⟨fresh, restDistinct⟩ := List.nodup_cons.mp distinct
      change addAll key (add key values value) rest = _
      rw [add_of_not_mem key (free value (by simp)), induction _ restDistinct]
      · simp
      · intro other member
        have differs : key other ≠ key value := fun same =>
          fresh (same ▸ mem_keys_of_mem key member)
        simpa [keys, differs.symm, differs] using free other (List.mem_cons_of_mem _ member)

/-- Of values with distinct keys those are added whose keys are new. -/
theorem mem_addAll {values more : List α} (distinct : (keys key more).Nodup) {value : α} :
    value ∈ addAll key values more ↔
      value ∈ values ∨ value ∈ more ∧ key value ∉ keys key values := by
  induction more generalizing values with
  | nil => simp
  | cons first rest induction =>
      have ⟨fresh, restDistinct⟩ := List.nodup_cons.mp distinct
      change value ∈ addAll key (add key values first) rest ↔ _
      rw [induction restDistinct, List.mem_cons]
      by_cases present : key first ∈ keys key values
      · have known : value = first → key value ∈ keys key values := fun same => same ▸ present
        have kept : add key values first = values :=
          addAll_of_known key (List.forall_mem_singleton.mpr present)
        rw [kept]
        tauto
      · have later : value ∈ rest → key value ≠ key first := fun member same =>
          fresh (same ▸ mem_keys_of_mem key member)
        have new : value = first → key value ∉ keys key values := fun same => same ▸ present
        have widened : key value ∈ keys key (values ++ [first]) ↔
            key value ∈ keys key values ∨ key value = key first := by
          simp [keys]
        rw [add_of_not_mem key present, widened, List.mem_append, List.mem_singleton]
        tauto

/-! ## Dropping -/

theorem find?_drop (values : List α) (gone : List κ) (sought : κ) :
    find? key (drop key values gone) sought =
      if sought ∈ gone then none else find? key values sought := by
  induction values with
  | nil => simp [drop, find?]
  | cons value rest induction =>
      rw [drop] at induction ⊢
      by_cases kept : key value ∈ gone
      · rw [List.filter_cons_of_neg (by simpa using kept), induction, find?_cons]
        by_cases same : key value = sought
        · simp [← same, kept]
        · simp [same]
      · rw [List.filter_cons_of_pos (by simpa using kept), find?_cons, induction, find?_cons]
        by_cases same : key value = sought
        · simp [← same, kept]
        · simp [same]

theorem mem_drop {values : List α} {gone : List κ} {value : α} :
    value ∈ drop key values gone ↔ value ∈ values ∧ key value ∉ gone := by
  rw [drop, List.mem_filter, decide_eq_true_iff]

theorem mem_keys_drop {values : List α} {gone : List κ} {sought : κ} :
    sought ∈ keys key (drop key values gone) ↔ sought ∈ keys key values ∧ sought ∉ gone := by
  simp only [mem_keys, mem_drop]
  constructor
  · rintro ⟨value, ⟨member, stays⟩, rfl⟩
    exact ⟨⟨value, member, rfl⟩, stays⟩
  · rintro ⟨⟨value, member, rfl⟩, stays⟩
    exact ⟨value, ⟨member, stays⟩, rfl⟩

/-- What is free once some keys have been dropped has one of them or was free before. -/
theorem mem_or_free_of_drop {values : List α} {gone : List κ} {sought : κ}
    (free : find? key (drop key values gone) sought = none) :
    sought ∈ gone ∨ find? key values sought = none := by
  rw [find?_drop] at free
  split at free
  case isTrue member => exact .inl member
  case isFalse => exact .inr free

theorem nodup_drop {values : List α} (distinct : (keys key values).Nodup) (gone : List κ) :
    (keys key (drop key values gone)).Nodup :=
  distinct.sublist (List.filter_sublist.map key)

theorem drop_drop (values : List α) (first second : List κ) :
    drop key (drop key values first) second = drop key values (first ++ second) := by
  simp only [drop, List.filter_filter, List.mem_append]
  congr 1
  funext value
  by_cases inFirst : key value ∈ first <;> by_cases inSecond : key value ∈ second <;>
    simp [inFirst, inSecond]

@[simp] theorem drop_nil (values : List α) : drop key values [] = values := by
  simp [drop]

/-- In which order keys are dropped makes no difference. -/
theorem drop_keys_reverse (values gone : List α) :
    drop key values (keys key gone.reverse) = drop key values (keys key gone) := by
  simp [drop, mem_keys]

theorem drop_eq_self {values : List α} {gone : List κ} (kept : ∀ value ∈ values, key value ∉ gone) :
    drop key values gone = values := by
  rw [drop, List.filter_eq_self]
  intro value member
  simpa using kept value member

/-- What was added is dropped again, whether or not its keys were new. -/
theorem drop_addAll (values more : List α) :
    drop key (addAll key values more) (keys key more) = drop key values (keys key more) := by
  rcases exists_addAll_eq_append key values more with ⟨added, given, whole⟩
  have gone : added.filter (fun value => key value ∉ keys key more) = [] := by
    rw [List.filter_eq_nil_iff]
    intro value member
    simpa using mem_keys_of_mem key (given member)
  rw [whole, drop, List.filter_append, gone, List.append_nil, drop]

/-- What was added under new keys leaves nothing behind once it is dropped. -/
theorem drop_addAll_of_free {values more : List α}
    (free : ∀ value ∈ more, find? key values (key value) = none) :
    drop key (addAll key values more) (keys key more) = values := by
  rw [drop_addAll]
  apply drop_eq_self
  intro value member shared
  rcases (mem_keys key).mp shared with ⟨other, isMore, same⟩
  exact (find?_eq_none key).mp (free other isMore) (same ▸ mem_keys_of_mem key member)

/-- What was dropped is added again. -/
theorem find?_addAll_drop {values more : List α} (distinct : (keys key values).Nodup)
    (present : ∀ value ∈ more, value ∈ values) (sought : κ) :
    find? key (addAll key (drop key values (keys key more)) more) sought =
      find? key values sought := by
  rw [find?_addAll, find?_drop]
  split
  case isTrue dropped =>
    cases found : find? key more sought with
    | none => exact absurd dropped ((find?_eq_none key).mp found)
    | some value =>
        have ⟨member, atSought⟩ := mem_of_find? key found
        rw [Option.none_or, ← atSought,
          find?_of_mem key (single_of_nodup key distinct) (present value member)]
  case isFalse unknown => rw [(find?_eq_none key).mpr unknown, Option.or_none]

/-- Of the values that are added those stay whose keys are new, and of each key the first. -/
theorem addAll_eq_append_eraseDupsBy (values more : List α) :
    addAll key values more = values
      ++ (drop key more (keys key values)).eraseDupsBy (key · == key ·) := by
  induction more generalizing values with
  | nil => simp [drop]
  | cons value rest induction =>
      change addAll key (add key values value) rest = _
      rw [induction]
      by_cases present : key value ∈ keys key values
      · have known : add key values value = values :=
          addAll_of_known key (List.forall_mem_singleton.mpr present)
        rw [known, drop, drop, List.filter_cons_of_neg (by simpa using present)]
      · have widened : drop key rest (keys key (values ++ [value])) =
            (drop key rest (keys key values)).filter
              fun other => (key other == key value) = false := by
          rw [keys, List.map_append, ← keys, ← drop_drop, drop]
          simp
        rw [add_of_not_mem key present, widened, drop, drop,
          List.filter_cons_of_pos (by simpa using present), List.eraseDupsBy_cons,
          List.append_assoc, List.singleton_append]

theorem addAll_nil_eq_eraseDupsBy (values : List α) :
    addAll key [] values = values.eraseDupsBy (key · == key ·) := by
  simpa using addAll_eq_append_eraseDupsBy key [] values

/-! ## Exchanging

Some of the old values give way to some new ones, and those that are both stay as they are. -/

section Exchange

variable [DecidableEq α]

def onlyIn (left right : List α) : List α :=
  left.filter (· ∉ right)

theorem mem_onlyIn {left right : List α} {value : α} :
    value ∈ onlyIn left right ↔ value ∈ left ∧ value ∉ right := by
  simp [onlyIn]

omit [DecidableEq κ] in
theorem single_onlyIn {left : List α} (single : Single key left) (right : List α) :
    Single key (onlyIn left right) :=
  single.sublist key List.filter_sublist

omit [DecidableEq κ] in
theorem mem_keys_onlyIn {left right : List α} {sought : κ} :
    sought ∈ keys key (onlyIn left right) ↔
      ∃ value ∈ left, value ∉ right ∧ key value = sought := by
  simp only [keys, List.mem_map, mem_onlyIn, and_assoc]

def exchange (old new values : List α) : List α :=
  addAll key (drop key values (keys key (onlyIn old new))) (onlyIn new old)

theorem find?_exchange (old new values : List α) (sought : κ) :
    find? key (exchange key old new values) sought =
      (if sought ∈ keys key (onlyIn old new) then none else find? key values sought).or
        (find? key (onlyIn new old) sought) := by
  rw [exchange, find?_addAll, find?_drop]

theorem exchange_nil (new values : List α) :
    exchange key [] new values = addAll key values new := by
  simp [exchange, onlyIn]

/-- What is there after an exchange and was not put there was there before. -/
theorem mem_of_mem_exchange {old new values : List α} {value : α}
    (member : value ∈ exchange key old new values)
    (other : key value ∉ keys key (onlyIn new old)) : value ∈ values := by
  have either := addAll_subset key _ _ member
  rcases List.mem_append.mp either with before | added
  · exact ((mem_drop key).mp before).1
  · exact absurd (mem_keys_of_mem key added) other

/-- Old values that are there, and new ones of keys that only old values have, can be exchanged and
exchanged back. -/
theorem find?_exchange_exchange {old new values : List α} (distinct : (keys key values).Nodup)
    (present : ∀ value ∈ old, value ∈ values)
    (free : ∀ value ∈ new, key value ∈ keys key old ∨ find? key values (key value) = none)
    (single : Single key new) (sought : κ) :
    find? key (exchange key new old (exchange key old new values)) sought =
      find? key values sought := by
  rw [find?_exchange, find?_exchange]
  by_cases gone : sought ∈ keys key (onlyIn old new)
  · -- An old value stood here, and it is put back.
    cases found : find? key (onlyIn old new) sought with
    | none => exact absurd gone ((find?_eq_none key).mp found)
    | some value =>
        have ⟨member, atSought⟩ := mem_of_find? key found
        have stood := find?_of_mem key (single_of_nodup key distinct)
          (present value (mem_onlyIn.mp member).1)
        rw [atSought] at stood
        rw [if_pos gone, stood, Option.none_or]
        by_cases placed : sought ∈ keys key (onlyIn new old)
        · rw [if_pos placed, Option.none_or]
        · rw [if_neg placed, (find?_eq_none key).mpr placed, Option.none_or]
  · -- Nothing was taken from here, and what was put here is taken away.
    rw [(find?_eq_none key).mpr gone, if_neg gone, Option.or_none]
    by_cases placed : sought ∈ keys key (onlyIn new old)
    · rw [if_pos placed]
      rcases (mem_keys_onlyIn key).mp placed with ⟨value, isNew, notOld, rfl⟩
      rcases free value isNew with known | vacant
      · rcases (mem_keys key).mp known with ⟨other, otherOld, sameKey⟩
        have otherNew : other ∈ new := by
          by_contra notNew
          exact gone ((mem_keys_onlyIn key).mpr ⟨other, otherOld, notNew, sameKey⟩)
        exact absurd (single other otherNew value isNew sameKey ▸ otherOld) notOld
      · exact vacant.symm
    · rw [if_neg placed, (find?_eq_none key).mpr placed, Option.or_none]

/-- Old values that were added to others can be exchanged for new ones as if these had been added
in the first place. -/
theorem find?_exchange_addAll {old new values : List α}
    (oldFree : ∀ value ∈ old, find? key values (key value) = none)
    (oldSingle : Single key old) (newSingle : Single key new) (sought : κ) :
    find? key (exchange key old new (addAll key values old)) sought =
      find? key (addAll key values new) sought := by
  rw [find?_exchange, find?_addAll, find?_addAll]
  have newOnly (absent : ∀ value ∈ new, key value = sought → value ∉ old) :
      find? key (onlyIn new old) sought = find? key new sought := by
    apply Option.ext
    intro value
    rw [find?_eq_some_iff key newSingle,
      find?_eq_some_iff key (single_onlyIn key newSingle old), mem_onlyIn]
    constructor
    · rintro ⟨⟨isNew, _⟩, atSought⟩
      exact ⟨isNew, atSought⟩
    · rintro ⟨isNew, atSought⟩
      exact ⟨⟨isNew, absent value isNew atSought⟩, atSought⟩
  by_cases gone : sought ∈ keys key (onlyIn old new)
  · rcases (mem_keys_onlyIn key).mp gone with ⟨stale, staleOld, notNew, rfl⟩
    rw [if_pos gone, oldFree stale staleOld, Option.none_or, Option.none_or]
    apply newOnly
    intro value isNew sameKey isOld
    exact notNew (oldSingle value isOld stale staleOld sameKey ▸ isNew)
  · rw [if_neg gone, Option.or_assoc]
    congr 1
    cases found : find? key old sought with
    | none =>
        rw [Option.none_or]
        apply newOnly
        intro value _ atSought isOld
        exact (find?_eq_none key).mp found (atSought ▸ mem_keys_of_mem key isOld)
    | some value =>
        have ⟨isOld, atSought⟩ := mem_of_find? key found
        have isNew : value ∈ new := by
          by_contra notNew
          exact gone ((mem_keys_onlyIn key).mpr ⟨value, isOld, notNew, atSought⟩)
        rw [Option.some_or, ← atSought, find?_of_mem key newSingle isNew]

end Exchange

end Migration.ByKey
