import Migration.Proofs.ByKey
import Migration.Proofs.Plan.Arrangement
import Migration.Proofs.Plan.Circles

namespace Migration

/-! Tables of distinct names and what they need of each other. A table comes after those that it
needs, if no circle of needs leads to it. -/

/-- Of equal values the first stays, so a value is there if it was given. -/
theorem mem_foldl_once {α : Type} [DecidableEq α] {values more : List α} {value : α} :
    value ∈ more.foldl (fun known next => if next ∈ known then known else known ++ [next]) values ↔
      value ∈ values ∨ value ∈ more := by
  induction more generalizing values with
  | nil => simp
  | cons next rest induction =>
      rw [List.foldl_cons, induction]
      by_cases known : next ∈ values
      · rw [if_pos known, List.mem_cons]
        constructor
        · exact fun given => given.imp_right .inr
        · rintro (given | rfl | given)
          · exact .inl given
          · exact .inl known
          · exact .inr given
      · rw [if_neg known, List.mem_append, List.mem_singleton, List.mem_cons, or_assoc]

theorem mem_collectEdges {tables : List PlannedTable} {edge : Edge} :
    edge ∈ collectEdges tables ↔
      ∃ planned ∈ tables, edge.source ∈ planned.needs ∧ edge.target = planned.table := by
  rcases edge with ⟨source, target⟩
  rw [collectEdges]
  rw [mem_foldl_once]
  simp only [List.not_mem_nil, false_or, List.mem_flatMap, List.mem_map, Edge.mk.injEq]
  constructor
  · rintro ⟨planned, member, need, needed, rfl, rfl⟩
    exact ⟨planned, member, needed, rfl⟩
  · rintro ⟨planned, member, needed, rfl⟩
    exact ⟨planned, member, source, needed, rfl, rfl⟩

/-! ## Distinct names -/

section Distinct

variable {tables : List PlannedTable} (distinct : (tables.map (·.table)).Nodup)

include distinct

theorem place_eq_of_table_eq {left right : Nat} {leftPlanned rightPlanned : PlannedTable}
    (atLeft : tables[left]? = some leftPlanned) (atRight : tables[right]? = some rightPlanned)
    (same : leftPlanned.table = rightPlanned.table) : left = right := by
  rcases List.getElem?_eq_some_iff.mp atLeft with ⟨inside, _⟩
  have insideNames : left < (tables.map (·.table)).length := by simpa using inside
  apply (List.getElem?_inj insideNames distinct).mp
  rw [List.getElem?_map, List.getElem?_map, atLeft, atRight, Option.map_some, Option.map_some, same]

theorem findIdx?_of_getElem? {place : Nat} {planned : PlannedTable}
    (atPlace : tables[place]? = some planned) :
    tables.findIdx? (·.table = planned.table) = some place := by
  cases found : tables.findIdx? (·.table = planned.table) with
  | none =>
      have missing := List.findIdx?_eq_none_iff.mp found planned (List.mem_of_getElem? atPlace)
      simp at missing
  | some other =>
      rcases getElem?_of_findIdx? found with ⟨otherPlanned, atOther, same⟩
      rw [place_eq_of_table_eq distinct atOther atPlace same]

theorem precedes_of_edge {edges : List Edge} {earlier later : Nat}
    {earlierPlanned laterPlanned : PlannedTable} (differ : earlier ≠ later)
    (atEarlier : tables[earlier]? = some earlierPlanned)
    (atLater : tables[later]? = some laterPlanned)
    (edge : ⟨earlierPlanned.table, laterPlanned.table⟩ ∈ edges) :
    Precedes tables edges earlier later :=
  ⟨_, edge, fun same => differ (place_eq_of_table_eq distinct atEarlier atLater same),
    findIdx?_of_getElem? distinct atEarlier, findIdx?_of_getElem? distinct atLater⟩

/-- The edges that are collected lead to a table from all that it needs. -/
theorem edge_mem_collectEdges_iff {earlier : String} {later : Nat} {planned : PlannedTable}
    (atLater : tables[later]? = some planned) :
    ⟨earlier, planned.table⟩ ∈ collectEdges tables ↔ earlier ∈ planned.needs := by
  rw [mem_collectEdges]
  constructor
  · rintro ⟨other, otherMember, needed, otherName⟩
    rcases List.getElem?_of_mem otherMember with ⟨place, atPlace⟩
    have samePlace := place_eq_of_table_eq distinct atLater atPlace otherName
    have same : planned = other := Option.some.inj (atLater.symm.trans (samePlace ▸ atPlace))
    exact same ▸ needed
  · exact fun needed => ⟨planned, List.mem_of_getElem? atLater, needed, rfl⟩

end Distinct

/-! ## Names -/

/-- The name of the table at a place. -/
def nameAt (tables : List PlannedTable) (place : Nat) : String :=
  (tables[place]?.map (·.table)).getD ""

theorem nameAt_of_getElem? {tables : List PlannedTable} {place : Nat} {planned : PlannedTable}
    (atPlace : tables[place]? = some planned) : nameAt tables place = planned.table := by
  rw [nameAt, atPlace, Option.map_some, Option.getD_some]

/-- An edge leads from the one table to the other, and both are among those named. -/
def EdgeAmong (names : List String) (edges : List Edge) (earlier later : String) : Prop :=
  earlier ≠ later ∧ earlier ∈ names ∧ later ∈ names ∧ ⟨earlier, later⟩ ∈ edges

instance (names : List String) (edges : List Edge) (earlier later : String) :
    Decidable (EdgeAmong names edges earlier later) :=
  inferInstanceAs (Decidable (_ ∧ _))

theorem edgeAmong_of_precedes {tables : List PlannedTable} {edges : List Edge}
    {earlier later : Nat} (precedes : Precedes tables edges earlier later) :
    EdgeAmong (tables.map (·.table)) edges (nameAt tables earlier) (nameAt tables later) := by
  rcases precedes with ⟨edge, member, differ, source, target⟩
  rcases getElem?_of_findIdx? source with ⟨earlierPlanned, atEarlier, earlierName⟩
  rcases getElem?_of_findIdx? target with ⟨laterPlanned, atLater, laterName⟩
  rw [nameAt_of_getElem? atEarlier, nameAt_of_getElem? atLater, earlierName, laterName]
  exact ⟨differ, earlierName ▸ List.mem_map_of_mem (List.mem_of_getElem? atEarlier),
    laterName ▸ List.mem_map_of_mem (List.mem_of_getElem? atLater), member⟩

/-! ## Needs -/

/-- The one table is needed by the other, and not the same. -/
def Needed (tables : List PlannedTable) (earlier later : String) : Prop :=
  earlier ≠ later ∧ earlier ∈ tables.map (·.table)
    ∧ ∃ planned ∈ tables, planned.table = later ∧ earlier ∈ planned.needs

theorem needed_of_precedes {tables : List PlannedTable} {earlier later : Nat}
    (precedes : Precedes tables (collectEdges tables) earlier later) :
    Needed tables (nameAt tables earlier) (nameAt tables later) := by
  rcases edgeAmong_of_precedes precedes with ⟨differ, member, _, edge⟩
  rcases mem_collectEdges.mp edge with ⟨planned, plannedMember, needed, name⟩
  exact ⟨differ, member, planned, plannedMember, name.symm, needed⟩

/-- Where no circle of needs leads to a table, it comes after each that it needs. -/
theorem lt_of_needed {tables : List PlannedTable} (distinct : (tables.map (·.table)).Nodup)
    {i j : Nat} {earlier later : PlannedTable} (atI : (arranged tables)[i]? = some earlier)
    (atJ : (arranged tables)[j]? = some later) (needed : earlier.table ∈ later.needs)
    (differ : earlier.table ≠ later.table)
    (noCircle : ∀ start, Relation.TransGen (Needed tables) start start →
      ¬Relation.ReflTransGen (Needed tables) start later.table) : i < j := by
  rcases exists_place_of_arrange atI with ⟨first, firstAt, firstPlanned⟩
  rcases exists_place_of_arrange atJ with ⟨second, secondAt, secondPlanned⟩
  have placesDiffer : first ≠ second := by
    rintro rfl
    exact differ (congrArg _ (Option.some.inj (firstPlanned.symm.trans secondPlanned)))
  have precedes : Precedes tables (collectEdges tables) first second :=
    precedes_of_edge distinct placesDiffer firstPlanned secondPlanned
      ((edge_mem_collectEdges_iff distinct secondPlanned).mpr needed)
  by_contra notBefore
  have broken : j < i := by
    refine lt_of_le_of_ne (not_lt.mp notBefore) ?_
    rintro rfl
    exact placesDiffer (Option.some.inj (firstAt.symm.trans secondAt))
  have emits := emits_placesInOrder tables (collectEdges tables)
  rcases emits.circle_and_least_of_broken firstAt secondAt precedes broken with
    ⟨⟨start, circle, reaches⟩, _⟩
  -- A circle of places is a circle of names.
  have neededOfHoldsUp {emitted : List Nat} : ∀ left right,
      HoldsUp tables (collectEdges tables) emitted left right →
        Needed tables (nameAt tables left) (nameAt tables right) :=
    fun _ _ held => needed_of_precedes held.1
  have circleOfNames := Relation.TransGen.lift (nameAt tables) neededOfHoldsUp _ _ circle
  have reachesFirst := Relation.ReflTransGen.lift (nameAt tables) neededOfHoldsUp _ _ reaches
  have reachesSecond := reachesFirst.tail (needed_of_precedes precedes)
  rw [nameAt_of_getElem? secondPlanned] at reachesSecond
  exact noCircle _ circleOfNames reachesSecond

end Migration
