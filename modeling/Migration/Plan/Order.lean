import Migration.Blueprint.Basic
import Migration.Keyed
import Migration.Timestamp.Text

namespace Migration

open Json

/-! The order in which tables are created: every table after those it needs, as far as they do not
need each other in a circle. -/

inductive TableKind where
  | entity
  | pivot
  | morphPivot
  deriving DecidableEq, Repr

/-- A table that awaits its place. The identity is the name of its entity, or its own name if it
is derived. -/
structure PlannedTable where
  identity : String
  table : String
  entity : Option String
  kind : TableKind
  blueprint : Blueprint
  /-- Tables to follow beside those that foreign keys lead to. -/
  dependsOn : List String := []
  deriving DecidableEq

namespace PlannedTable

def ofEntity (entity : String) (blueprint : Blueprint) : PlannedTable where
  identity := entity
  table := blueprint.table
  entity := some entity
  kind := .entity
  blueprint := blueprint

def ofPivot (kind : TableKind) (blueprint : Blueprint) : PlannedTable where
  identity := blueprint.table
  table := blueprint.table
  entity := none
  kind := kind
  blueprint := blueprint

def needs (planned : PlannedTable) : List String :=
  planned.blueprint.foreignKeys.map (·.referencedTable) ++ planned.dependsOn

end PlannedTable

/-- The table `source` is to be created before the table `target`. -/
structure Edge where
  source : String
  target : String
  deriving DecidableEq

/-- An edge for every need, each once, in the order in which they first arise. -/
def collectEdges (tables : List PlannedTable) : List Edge :=
  (tables.flatMap fun planned => planned.needs.map fun need => ⟨need, planned.table⟩).foldl
    (fun edges edge => if edge ∈ edges then edges else edges ++ [edge]) []

/-! ## The graph of dependencies

Tables are known by their places in the list given. -/

/-- Of several tables of one name it is the first that counts. -/
def placesByName (tables : List PlannedTable) : Keyed (Fin tables.length) :=
  let named := (List.finRange tables.length).map fun place => ((tables.get place).table, place)
  Keyed.ofList named.reverse

/-- The places that wait for each place, and the number of places that each waits for itself. -/
structure DependencyGraph (count : Nat) where
  dependents : Vector (List (Fin count)) count
  inDegrees : Vector Nat count

namespace DependencyGraph

variable {count : Nat}

def empty : DependencyGraph count where
  dependents := .replicate count []
  inDegrees := .replicate count 0

/-- No place waits for another one twice, and none for itself. -/
def connect (graph : DependencyGraph count) (source target : Fin count) : DependencyGraph count :=
  if source = target ∨ target ∈ graph.dependents.get source then graph
  else
    { dependents := graph.dependents.set source (graph.dependents.get source ++ [target])
      inDegrees := graph.inDegrees.set target (graph.inDegrees.get target + 1) }

/-- Edges from a table to itself and edges to tables that are not planned are left out. -/
def addEdge (places : Keyed (Fin count)) (graph : DependencyGraph count) (edge : Edge) :
    DependencyGraph count :=
  if edge.source = edge.target then graph
  else
    match places.get? edge.source, places.get? edge.target with
    | some source, some target => graph.connect source target
    | _, _ => graph

end DependencyGraph

def dependencyGraph (tables : List PlannedTable) (edges : List Edge) :
    DependencyGraph tables.length :=
  edges.foldl (DependencyGraph.addEdge (placesByName tables)) .empty

/-! ## Arrangement -/

/-- Into an ascending list, where the place is in it only once. -/
def insertPlace {count : Nat} (place : Fin count) : List (Fin count) → List (Fin count)
  | [] => [place]
  | first :: rest =>
      if place < first then place :: first :: rest
      else if place = first then first :: rest
      else first :: insertPlace place rest

/-- How far the tables have come out. Of those that have not, `inDegrees` counts what they still
wait for, and `ready` has, in ascending order, those that wait for nothing. -/
structure Progress (count : Nat) where
  inDegrees : Vector Nat count
  ready : List (Fin count)
  done : Vector Bool count
  order : List (Fin count)

namespace Progress

variable {count : Nat}

def start (graph : DependencyGraph count) : Progress count where
  inDegrees := graph.inDegrees
  ready := (List.finRange count).filter (graph.inDegrees.get · = 0)
  done := .replicate count false
  order := []

/-- A place that this one waited for is out. -/
def settle (progress : Progress count) (place : Fin count) : Progress count :=
  if progress.done.get place then progress
  else
    let inDegree := progress.inDegrees.get place - 1
    { progress with
      inDegrees := progress.inDegrees.set place inDegree
      ready := if inDegree = 0 then insertPlace place progress.ready else progress.ready }

def emit (graph : DependencyGraph count) (progress : Progress count) (place : Fin count) :
    Progress count :=
  (graph.dependents.get place).foldl settle
    { progress with
      done := progress.done.set place true
      order := progress.order ++ [place] }

/-- The first place that is ready, with those that stay ready, or simply the first that is left
where a circle holds up all of them. What is ready but out already is passed over. -/
def next? (progress : Progress count) : Option (Fin count × List (Fin count)) :=
  match progress.ready.dropWhile (progress.done.get ·) with
  | place :: rest => some (place, rest)
  | [] => ((List.finRange count).find? (!progress.done.get ·)).map (·, [])

def step? (graph : DependencyGraph count) (progress : Progress count) : Option (Progress count) :=
  progress.next?.map fun (place, ready) => { progress with ready := ready }.emit graph place

/-- `left` is the number of places that are not out yet. -/
def run (graph : DependencyGraph count) : (left : Nat) → Progress count → Progress count
  | 0, progress => progress
  | left + 1, progress =>
      match progress.step? graph with
      | some next => run graph left next
      | none => progress

end Progress

/-- Every place once, in the order in which the tables come out. -/
def placesInOrder (tables : List PlannedTable) (edges : List Edge) : List (Fin tables.length) :=
  let graph := dependencyGraph tables edges
  ((Progress.start graph).run graph tables.length).order

/-! ## Ordered tables -/

/-- A table in its place, stamped with the moment of its migration. -/
structure OrderedTable where
  identity : String
  table : String
  entity : Option String
  kind : TableKind
  blueprint : Blueprint
  timestamp : Timestamp
  deriving DecidableEq

namespace OrderedTable

def stamp (base : Timestamp) (planned : PlannedTable) (place : Nat) : OrderedTable where
  identity := planned.identity
  table := planned.table
  entity := planned.entity
  kind := planned.kind
  blueprint := planned.blueprint
  timestamp := base.plusSeconds place

def fileStem (ordered : OrderedTable) : String :=
  ordered.timestamp.text ++ "_create_" ++ ordered.table ++ "_table"

end OrderedTable

/-- Every table is taken from its slot when its place comes up. -/
def takeStamped {count : Nat} (base : Timestamp) :
    List (Fin count × Nat) → (slots : Vector (Option PlannedTable) count) → List OrderedTable
  | [], _ => []
  | (place, position) :: rest, slots =>
      let later := takeStamped base rest (slots.set place none)
      match slots.get place with
      | some planned => .stamp base planned position :: later
      | none => later

/-- One second lies between a table and the next. -/
def orderTables (tables : List PlannedTable) (edges : List Edge) (base : Timestamp) :
    List OrderedTable :=
  takeStamped base (placesInOrder tables edges).zipIdx (.ofFn fun place => some (tables.get place))

/-! ## Documents -/

namespace TableKind

def name : TableKind → String
  | .entity => "entity"
  | .pivot => "pivot"
  | .morphPivot => "morph_pivot"

def all : List TableKind := [.entity, .pivot, .morphPivot]

end TableKind

instance : Encode TableKind := ⟨fun kind => .string kind.name⟩

instance : Decode TableKind := ⟨decodeName (TableKind.all.map fun kind => (kind.name, kind))⟩

instance : Encode Edge where
  encode edge := .object (field "from" edge.source ++ field "to" edge.target)

instance : Decode Edge where
  decode value := do
    let record ← decodeRecord ["from", "to"] value
    return ⟨← record.required "from", ← record.required "to"⟩

instance : Encode OrderedTable where
  encode ordered := .object (
    field "identity" ordered.identity ++ field "table" ordered.table
      ++ field "source_entity" ordered.entity ++ field "kind" ordered.kind
      ++ field "blueprint" ordered.blueprint ++ field "timestamp" ordered.timestamp)

instance : Decode OrderedTable where
  decode value := do
    let record ← decodeRecord
      ["identity", "table", "source_entity", "kind", "blueprint", "timestamp"] value
    return {
      identity := ← record.required "identity"
      table := ← record.required "table"
      entity := ← record.optional "source_entity"
      kind := ← record.required "kind"
      blueprint := ← record.required "blueprint"
      timestamp := ← record.required "timestamp" }

end Migration
