import Mathlib.Data.Fintype.Basic
import Mathlib.Data.Finset.Card
import Mathlib.Data.List.FinRange
import Migration.Proofs.Keyed
import Migration.Proofs.Plan.Process

namespace Migration

/-! What the graph of dependencies holds: which table precedes which, each pair of them once, and
how many precede each. -/

theorem get_set_place {α : Type} {count : Nat} (values : Vector α count)
    (place other : Fin count) (value : α) :
    (values.set place value place.isLt).get other =
      if place = other then value else values.get other := by
  change (values.set place value place.isLt)[other.val] = _
  simp only [Vector.getElem_set, Fin.val_inj]
  rfl

variable {tables : List PlannedTable} {edges : List Edge}

/-! ## Names -/

theorem findIdx?_of_get?_placesByName {name : String} {place : Fin tables.length}
    (found : (placesByName tables).get? name = some place) :
    tables.findIdx? (·.table = name) = some place.val := by
  rw [placesByName, Keyed.get?_ofList_reverse] at found
  rcases List.lookup_eq_some_iff.mp found with ⟨_, _, whole, others⟩
  rcases List.map_eq_append_iff.mp whole with ⟨before, _, split, rfl, rest⟩
  rcases List.map_eq_cons_iff.mp rest with ⟨first, after, rfl, isEntry, _⟩
  rcases Prod.mk.inj isEntry with ⟨named, rfl⟩
  refine List.findIdx?_eq_some_iff_getElem.mpr ⟨first.isLt, by simpa using named, ?_⟩
  intro other lower
  have ascending := List.pairwise_lt_finRange tables.length
  rw [split, List.pairwise_append, List.pairwise_cons] at ascending
  let otherPlace : Fin tables.length := ⟨other, lower.trans first.isLt⟩
  have listed : otherPlace ∈ before ++ first :: after := split ▸ List.mem_finRange otherPlace
  have isBefore : otherPlace ∈ before := by
    rcases List.mem_append.mp listed with isBefore | isAfter
    · exact isBefore
    · rcases List.mem_cons.mp isAfter with same | later
      · exact absurd (Fin.val_eq_of_eq same) lower.ne
      · exact absurd (ascending.2.1.1 _ later) (Nat.lt_asymm lower)
  have differs : name ≠ tables[other].table := by
    simpa using others _ (List.mem_map_of_mem isBefore)
  simpa using differs.symm

/-- Every name means the first table that bears it. -/
theorem get?_placesByName_iff {name : String} {place : Fin tables.length} :
    (placesByName tables).get? name = some place ↔
      tables.findIdx? (·.table = name) = some place.val := by
  refine ⟨findIdx?_of_get?_placesByName, fun found => ?_⟩
  rcases getElem?_of_findIdx? found with ⟨planned, atPlace, named⟩
  have listed : (name, place) ∈
      (List.finRange tables.length).map fun place => ((tables.get place).table, place) := by
    refine List.mem_map.mpr ⟨place, List.mem_finRange place, ?_⟩
    have isPlanned : tables.get place = planned := by simpa using atPlace
    rw [isPlanned, named]
  rcases Keyed.exists_get?_of_mem listed with ⟨first, isFirst⟩
  rw [← Keyed.get?_ofList_reverse] at isFirst
  have same : first = place :=
    Fin.ext (Option.some.inj ((findIdx?_of_get?_placesByName isFirst).symm.trans found))
  exact same ▸ isFirst

namespace DependencyGraph

variable {count : Nat}

/-- What the target waits for once some places are out. -/
def blockers (graph : DependencyGraph count) (out : List (Fin count)) (target : Fin count) :
    Finset (Fin count) :=
  {source | (graph.dependents.get source).contains target ∧ !out.contains source}

theorem mem_blockers {graph : DependencyGraph count} {out : List (Fin count)}
    {source target : Fin count} :
    source ∈ graph.blockers out target ↔ target ∈ graph.dependents.get source ∧ source ∉ out := by
  rw [blockers, Finset.mem_filter, and_iff_right (Finset.mem_univ source), List.contains_iff_mem,
    Bool.not_eq_true', ← Bool.not_eq_true, List.contains_iff_mem]

/-- Every place that waits is listed once, and what it waits for is counted. -/
structure Counted (graph : DependencyGraph count) : Prop where
  nodup : ∀ source : Fin count, (graph.dependents.get source).Nodup
  inDegrees : ∀ target : Fin count, graph.inDegrees.get target = (graph.blockers [] target).card

/-! ## One edge -/

theorem mem_dependents_connect {graph : DependencyGraph count}
    {source target earlier later : Fin count} :
    later ∈ (graph.connect source target).dependents.get earlier ↔
      later ∈ graph.dependents.get earlier
        ∨ source ≠ target ∧ earlier = source ∧ later = target := by
  rw [connect]
  split
  case isTrue present =>
    refine ⟨.inl, ?_⟩
    rintro (known | ⟨differ, rfl, rfl⟩)
    · exact known
    · exact present.resolve_left differ
  case isFalse absent =>
    have differ : source ≠ target := fun same => absent (.inl same)
    rw [get_set_place]
    split
    case isTrue same =>
      subst same
      rw [List.mem_append, List.mem_singleton, and_iff_right differ, and_iff_right rfl]
    case isFalse other => simp [Ne.symm other]

theorem Counted.connect {graph : DependencyGraph count} (counted : graph.Counted)
    (source target : Fin count) : (graph.connect source target).Counted := by
  by_cases present : source = target ∨ target ∈ graph.dependents.get source
  · rwa [DependencyGraph.connect, if_pos present]
  · have ⟨differ, absent⟩ := not_or.mp present
    have connected : graph.connect source target =
        ⟨graph.dependents.set source (graph.dependents.get source ++ [target]),
          graph.inDegrees.set target (graph.inDegrees.get target + 1)⟩ := if_neg present
    constructor
    · intro other
      rw [connected, get_set_place]
      split
      case isTrue =>
        exact List.nodup_append_comm.mp (List.nodup_cons.mpr ⟨absent, counted.nodup source⟩)
      case isFalse => exact counted.nodup other
    · intro other
      have mem_connected (earlier : Fin count) :
          earlier ∈ (graph.connect source target).blockers [] other ↔
            earlier ∈ graph.blockers [] other ∨ earlier = source ∧ other = target := by
        simp only [mem_blockers, mem_dependents_connect, List.not_mem_nil, not_false_eq_true,
          and_true, ne_eq, differ, true_and]
      have degree : (graph.connect source target).inDegrees.get other =
          if target = other then graph.inDegrees.get target + 1 else graph.inDegrees.get other := by
        rw [connected, get_set_place]
      rw [degree]
      split
      case isTrue same =>
        subst same
        have fresh : source ∉ graph.blockers [] target := fun known =>
          absent (mem_blockers.mp known).1
        rw [counted.inDegrees target, ← Finset.card_insert_of_notMem fresh]
        congr 1
        ext earlier
        rw [mem_connected, Finset.mem_insert, and_iff_left rfl, or_comm]
      case isFalse differs =>
        rw [counted.inDegrees other]
        congr 1
        ext earlier
        rw [mem_connected, or_iff_left]
        exact fun isNew => differs isNew.2.symm

theorem mem_dependents_addEdge {graph : DependencyGraph tables.length} {edge : Edge}
    {earlier later : Fin tables.length} :
    later ∈ (graph.addEdge (placesByName tables) edge).dependents.get earlier ↔
      later ∈ graph.dependents.get earlier ∨ Precedes tables [edge] earlier later := by
  have single : Precedes tables [edge] earlier later ↔ edge.source ≠ edge.target
      ∧ (placesByName tables).get? edge.source = some earlier
      ∧ (placesByName tables).get? edge.target = some later := by
    simp only [Precedes, List.mem_singleton, exists_eq_left, get?_placesByName_iff]
  rw [single, addEdge]
  split
  case isTrue same => simp [same]
  case isFalse differ =>
    split
    case h_1 source target sourceFound targetFound =>
      have precedes : Precedes tables [edge] source target :=
        ⟨edge, List.mem_singleton_self edge, differ, get?_placesByName_iff.mp sourceFound,
          get?_placesByName_iff.mp targetFound⟩
      have placesDiffer : source ≠ target := fun same => precedes.ne (congrArg Fin.val same)
      rw [mem_dependents_connect, sourceFound, targetFound, Option.some_inj, Option.some_inj,
        eq_comm (a := earlier), eq_comm (a := later)]
      simp only [ne_eq, placesDiffer, differ]
    case h_2 unplanned =>
      have neither : ¬((placesByName tables).get? edge.source = some earlier
          ∧ (placesByName tables).get? edge.target = some later) :=
        fun found => unplanned earlier later found.1 found.2
      simp [neither]

theorem Counted.addEdge {graph : DependencyGraph count} (counted : graph.Counted)
    (places : Keyed (Fin count)) (edge : Edge) : (graph.addEdge places edge).Counted := by
  rw [DependencyGraph.addEdge]
  split
  case isTrue => exact counted
  case isFalse =>
    split
    case h_1 source target _ _ => exact counted.connect source target
    case h_2 => exact counted

/-! ## All edges -/

theorem mem_dependents_foldl {graph : DependencyGraph tables.length}
    {earlier later : Fin tables.length} :
    later ∈ (edges.foldl (addEdge (placesByName tables)) graph).dependents.get earlier ↔
      later ∈ graph.dependents.get earlier ∨ Precedes tables edges earlier later := by
  induction edges generalizing graph with
  | nil => simp [Precedes]
  | cons edge rest induction =>
      have split : Precedes tables (edge :: rest) earlier later ↔
          Precedes tables [edge] earlier later ∨ Precedes tables rest earlier later := by
        simp only [Precedes, List.exists_mem_cons_iff, List.mem_singleton, exists_eq_left]
      rw [List.foldl_cons, induction, mem_dependents_addEdge, split, or_assoc]

theorem Counted.foldl {graph : DependencyGraph count} (counted : graph.Counted)
    (places : Keyed (Fin count)) (edges : List Edge) :
    (edges.foldl (DependencyGraph.addEdge places) graph).Counted := by
  induction edges generalizing graph with
  | nil => exact counted
  | cons edge rest induction => exact induction (counted.addEdge places edge)

theorem dependents_empty (source : Fin count) :
    (empty : DependencyGraph count).dependents.get source = [] :=
  Vector.getElem_replicate source.isLt

theorem counted_empty : (empty : DependencyGraph count).Counted where
  nodup source := by
    rw [dependents_empty]
    exact List.nodup_nil
  inDegrees target := by
    have zero : (empty : DependencyGraph count).inDegrees.get target = 0 :=
      Vector.getElem_replicate target.isLt
    rw [zero, eq_comm, Finset.card_eq_zero, Finset.eq_empty_iff_forall_notMem]
    intro source waits
    have listed := (mem_blockers.mp waits).1
    rw [dependents_empty] at listed
    contradiction

end DependencyGraph

/-- A place waits for another exactly if an edge says so. -/
theorem mem_dependents_dependencyGraph {earlier later : Fin tables.length} :
    later ∈ (dependencyGraph tables edges).dependents.get earlier ↔
      Precedes tables edges earlier later := by
  rw [dependencyGraph, DependencyGraph.mem_dependents_foldl, DependencyGraph.dependents_empty]
  exact or_iff_right List.not_mem_nil

theorem counted_dependencyGraph (tables : List PlannedTable) (edges : List Edge) :
    (dependencyGraph tables edges).Counted :=
  DependencyGraph.counted_empty.foldl (placesByName tables) edges

end Migration
