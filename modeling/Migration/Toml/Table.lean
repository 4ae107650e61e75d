import Migration.Json.Value

namespace Migration.Toml

open Json (Value)

/-! Tables while a text is read. A table may be filled by its own header, come about as a part of
the headers of tables in it, or come about from a key with points; no table is filled by two of
these, and only a value keeps out everything. -/

inductive Origin where
  | header
  | implied
  | dotted
  deriving DecidableEq

inductive Item where
  | value (value : Value)
  | table (origin : Origin) (entries : List (String × Item))
  /-- The tables of one repeated header, the last of them first. -/
  | tables (last : List (String × Item)) (earlier : List (List (String × Item)))

abbrev Entries := List (String × Item)

mutual
def Item.toValue : Item → Value
  | .value value => value
  | .table _ entries => .object (valuesOf entries)
  | .tables last earlier => .array ((objectsOf earlier).reverse ++ [.object (valuesOf last)])

def valuesOf : List (String × Item) → List (String × Value)
  | [] => []
  | (name, item) :: rest => (name, item.toValue) :: valuesOf rest

def objectsOf : List (List (String × Item)) → List Value
  | [] => []
  | entries :: rest => .object (valuesOf entries) :: objectsOf rest
end

namespace Entries

/-- The entry of a name changed, or made if there is none. -/
def alter (name : String) (change : Option Item → Option Item) : Entries → Option Entries
  | [] => (change none).map fun item => [(name, item)]
  | (known, item) :: rest =>
      if known = name then (change (some item)).map fun item => (known, item) :: rest
      else (alter name change rest).map fun rest => (known, item) :: rest

/-- The entries that the names of a header lead to, changed. Of repeated tables the last counts. -/
def within (change : Entries → Option Entries) : (names : List String) → Entries → Option Entries
  | [], entries => change entries
  | name :: names, entries => entries.alter name fun
      | none => (within change names []).map (.table .implied)
      | some (.value _) => none
      | some (.table origin inner) => (within change names inner).map (.table origin)
      | some (.tables last earlier) => (within change names last).map (.tables · earlier)

def openTable (names : List String) (entries : Entries) : Option Entries :=
  entries.within (alter (names.getLast?.getD "") fun
    | none => some (.table .header [])
    | some (.table .implied inner) => some (.table .header inner)
    | some _ => none) names.dropLast

def openRepeated (names : List String) (entries : Entries) : Option Entries :=
  entries.within (alter (names.getLast?.getD "") fun
    | none => some (.tables [] [])
    | some (.tables last earlier) => some (.tables [] (last :: earlier))
    | some _ => none) names.dropLast

/-- A value under a key of one or more names. The last of the tables on the way must have come
about from such a key. -/
def insert (value : Value) : (key : List String) → Entries → Option Entries
  | [], _ => none
  | [name], entries => entries.alter name fun
      | none => some (.value value)
      | some _ => none
  | name :: next :: rest, entries => entries.alter name fun
      | none => (insert value (next :: rest) []).map (.table .dotted)
      | some (.value _) => none
      | some (.table origin inner) =>
          if origin = .header || (rest.isEmpty && origin ≠ .dotted) then none
          else (insert value (next :: rest) inner).map (.table origin)
      | some (.tables last earlier) =>
          if rest.isEmpty then none
          else (insert value (next :: rest) last).map (.tables · earlier)

end Entries

end Migration.Toml
