namespace Migration

/-! Values by name, in the order in which the names were first given. -/

abbrev Keyed (α : Type) := List (String × α)

namespace Keyed

variable {α β : Type}

def keys (entries : Keyed α) : List String :=
  entries.map (·.1)

def values (entries : Keyed α) : List α :=
  entries.map (·.2)

def get? (entries : Keyed α) (key : String) : Option α :=
  entries.lookup key

def contains (entries : Keyed α) (key : String) : Bool :=
  (entries.get? key).isSome

/-- A known key keeps its place and takes the new value. -/
def insert : Keyed α → String → α → Keyed α
  | [], key, value => [(key, value)]
  | (known, old) :: rest, key, value =>
      if known = key then (known, value) :: rest else (known, old) :: insert rest key value

/-- The entries of `more` inserted one after the other. -/
def extend (entries more : Keyed α) : Keyed α :=
  more.foldl (fun entries entry => entries.insert entry.1 entry.2) entries

def ofList (entries : List (String × α)) : Keyed α :=
  extend [] entries

/-- The same values under the same keys, in whatever order. -/
def same (sameValue : α → α → Bool) (left right : Keyed α) : Bool :=
  left.length == right.length && left.all fun (key, value) =>
    match right.get? key with
    | some other => sameValue value other
    | none => false

@[simp] theorem get?_nil (key : String) : get? ([] : Keyed α) key = none := rfl

theorem get?_cons (known : String) (value : α) (rest : Keyed α) (key : String) :
    get? ((known, value) :: rest) key = if key = known then some value else rest.get? key := by
  change (match key == known with
    | true => some value
    | false => rest.lookup key) = _
  by_cases same : key = known
  · simp [same]
  · have differs : (key == known) = false := by simpa using same
    simp [same, differs, get?]

theorem mem_of_get? {entries : Keyed α} {key : String} {value : α}
    (found : entries.get? key = some value) : (key, value) ∈ entries := by
  rcases List.lookup_eq_some_iff.mp found with ⟨before, after, whole, _⟩
  rw [whole]
  exact List.mem_append_right before List.mem_cons_self

theorem exists_get?_of_mem {entries : Keyed α} {key : String} {value : α}
    (member : (key, value) ∈ entries) : ∃ first, entries.get? key = some first :=
  Option.isSome_iff_exists.mp (List.lookup_isSome_iff.mpr ⟨_, member, beq_self_eq_true key⟩)

theorem get?_insert (entries : Keyed α) (key : String) (value : α) (other : String) :
    (entries.insert key value).get? other =
      if other = key then some value else entries.get? other := by
  induction entries with
  | nil => simp [insert, get?_cons]
  | cons head rest induction =>
      rcases head with ⟨known, old⟩
      by_cases keySame : known = key
      · subst keySame
        by_cases same : other = known <;> simp [insert, get?_cons, same]
      · by_cases same : other = known
        · subst same
          simp [insert, keySame, get?_cons]
        · simp [insert, keySame, get?_cons, same, induction]

theorem keys_insert (entries : Keyed α) (key : String) (value : α) :
    (entries.insert key value).keys =
      if key ∈ entries.keys then entries.keys else entries.keys ++ [key] := by
  induction entries with
  | nil => simp [insert, keys]
  | cons head rest induction =>
      rcases head with ⟨known, old⟩
      by_cases keySame : known = key
      · simp [insert, keys, keySame]
      · have keyOther : key ≠ known := fun equal => keySame equal.symm
        simp only [insert, keySame, if_false, keys, List.map_cons] at induction ⊢
        rw [induction]
        by_cases member : key ∈ List.map (·.1) rest <;> simp [member, keyOther]

example : keys (ofList [("a", 1), ("b", 2), ("a", 3)]) = ["a", "b"]
    ∧ (ofList [("a", 1), ("b", 2), ("a", 3)]).get? "a" = some 3 := by decide

end Keyed

end Migration
