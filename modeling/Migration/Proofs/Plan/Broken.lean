import Migration.Proofs.Plan.Edges

namespace Migration

/-! Edges that the order does not respect. An edge is broken only where everything that is left is
held up; then the table first declared comes out, whether it stands on a circle itself or only
behind one. -/

/-- The names of the tables in their order. -/
def orderedNames (tables : List PlannedTable) (edges : List Edge) : List String :=
  (arrange tables edges).map (·.table)

theorem map_table_orderTables (tables : List PlannedTable) (edges : List Edge)
    (base : Timestamp) :
    (orderTables tables edges base).map (·.table) = orderedNames tables edges := by
  have stamped : (fun entry : PlannedTable × Nat => (OrderedTable.stamp base entry.1 entry.2).table)
      = (·.table) ∘ Prod.fst := rfl
  rw [orderTables_eq, List.map_map, orderedNames]
  change List.map (fun entry : PlannedTable × Nat =>
    (OrderedTable.stamp base entry.1 entry.2).table) _ = _
  rw [stamped, ← List.map_map, List.zipIdx_map_fst]

section Names

variable {tables : List PlannedTable} {edges : List Edge}

theorem orderedNames_perm (tables : List PlannedTable) (edges : List Edge) :
    (orderedNames tables edges).Perm (tables.map (·.table)) :=
  (arrange_perm tables edges).map _

theorem orderedNames_eq (tables : List PlannedTable) (edges : List Edge) :
    orderedNames tables edges =
      ((placesInOrder tables edges).map (·.val)).map (nameAt tables) := by
  rw [orderedNames, arrange, List.map_map, List.map_map]
  apply List.map_congr_left
  intro place _
  exact (nameAt_of_getElem? (List.getElem?_eq_getElem place.isLt)).symm

/-- What has not come out after some steps is what the rest of the order names. -/
theorem mem_drop_orderedNames {count : Nat} {name : String} :
    name ∈ (orderedNames tables edges).drop count ↔
      ∃ place, Remains tables (((placesInOrder tables edges).map (·.val)).take count) place
        ∧ nameAt tables place = name := by
  rw [orderedNames_eq, ← List.map_drop, List.mem_map]
  simp only [(emits_placesInOrder tables edges).mem_drop_iff]

theorem edgeAmong_of_holdsUp {count earlier later : Nat}
    (held : HoldsUp tables edges (((placesInOrder tables edges).map (·.val)).take count)
      earlier later) :
    EdgeAmong ((orderedNames tables edges).drop count) edges (nameAt tables earlier)
      (nameAt tables later) := by
  rcases held with ⟨precedes, earlierRemains, laterRemains⟩
  rcases edgeAmong_of_precedes precedes with ⟨differ, _, _, edge⟩
  exact ⟨differ, mem_drop_orderedNames.mpr ⟨earlier, earlierRemains, rfl⟩,
    mem_drop_orderedNames.mpr ⟨later, laterRemains, rfl⟩, edge⟩

variable (edges) in
theorem exists_place_idxOf {name : String} (member : name ∈ tables.map (·.table)) :
    ∃ place planned, ((placesInOrder tables edges).map (·.val))[
        (orderedNames tables edges).idxOf name]? = some place
      ∧ tables[place]? = some planned ∧ planned.table = name := by
  have inside := List.idxOf_lt_length_of_mem ((orderedNames_perm tables edges).mem_iff.mpr member)
  have found : (orderedNames tables edges)[(orderedNames tables edges).idxOf name]? = some name :=
    (List.getElem?_eq_getElem inside).trans (congrArg some (List.getElem_idxOf inside))
  rw [orderedNames, List.getElem?_map] at found
  rcases Option.map_eq_some_iff.mp found with ⟨planned, atPlanned, isName⟩
  rcases exists_place_of_arrange atPlanned with ⟨place, atPlace, placed⟩
  exact ⟨place, planned, atPlace, placed, isName⟩

theorem idxOf_nameAt (distinct : (tables.map (·.table)).Nodup) {place : Nat}
    (inside : place < tables.length) :
    (tables.map (·.table)).idxOf (nameAt tables place) = place := by
  have insideNames : place < (tables.map (·.table)).length := by simpa using inside
  have name : nameAt tables place = (tables.map (·.table))[place] := by
    rw [nameAt_of_getElem? (List.getElem?_eq_getElem inside), List.getElem_map]
  rw [name, distinct.idxOf_getElem place insideNames]

end Names

/-- An edge is broken only if a circle leads to the table at its start, a circle of tables none of
which came out before, and only if no table declared before the one at its end is left. -/
theorem circle_and_declared_first_of_broken {tables : List PlannedTable} {edges : List Edge}
    (distinct : (tables.map (·.table)).Nodup) (base : Timestamp) {earlier later : String}
    (edge : EdgeAmong (tables.map (·.table)) edges earlier later) :
    let declared := tables.map (·.table)
    let order := (orderTables tables edges base).map (·.table)
    let left := order.drop (order.idxOf later)
    order.idxOf later < order.idxOf earlier →
      (∃ start, Relation.TransGen (EdgeAmong left edges) start start
          ∧ Relation.ReflTransGen (EdgeAmong left edges) start earlier)
        ∧ ∀ other ∈ left, declared.idxOf later ≤ declared.idxOf other := by
  intro declared order left broken
  have isOrder : order = orderedNames tables edges := map_table_orderTables tables edges base
  rcases edge with ⟨differ, earlierMember, laterMember, edge⟩
  rcases exists_place_idxOf edges earlierMember with
    ⟨first, firstPlanned, atFirst, firstPlaced, rfl⟩
  rcases exists_place_idxOf edges laterMember with
    ⟨second, secondPlanned, atSecond, secondPlaced, rfl⟩
  have placesDiffer : first ≠ second := by
    rintro rfl
    exact differ (congrArg _ (Option.some.inj (firstPlaced.symm.trans secondPlaced)))
  have precedes := precedes_of_edge distinct placesDiffer firstPlaced secondPlaced edge
  simp only [isOrder, left] at broken ⊢
  rcases (emits_placesInOrder tables edges).circle_and_least_of_broken atFirst atSecond precedes
    broken with ⟨⟨start, circle, reaches⟩, least⟩
  rw [← nameAt_of_getElem? firstPlaced]
  constructor
  · exact ⟨nameAt tables start,
      Relation.TransGen.lift (nameAt tables) (fun _ _ => edgeAmong_of_holdsUp) _ _ circle,
      Relation.ReflTransGen.lift (nameAt tables) (fun _ _ => edgeAmong_of_holdsUp) _ _ reaches⟩
  · intro other member
    rcases mem_drop_orderedNames.mp member with ⟨place, remains, rfl⟩
    rw [← nameAt_of_getElem? secondPlaced, idxOf_nameAt distinct remains.1,
      idxOf_nameAt distinct least.1.1]
    exact least.2 remains

/-! Teams and members need each other, and audits only follow members. Declared first, audits come
out first all the same. -/

def auditTables : List PlannedTable :=
  [("audits", "members"), ("teams", "members"), ("members", "teams")].map
    fun (table, reference) =>
      { PlannedTable.ofEntity table { table := table } with dependsOn := [reference] }

theorem auditTables_broken :
    (auditTables.map (·.table)).Nodup
      ∧ EdgeAmong (auditTables.map (·.table)) (collectEdges auditTables) "members" "audits"
      ∧ (orderTables auditTables (collectEdges auditTables) .unixEpoch).map (·.table) =
        ["audits", "teams", "members"]
      ∧ (∃ start, Relation.TransGen
          (EdgeAmong ["audits", "teams", "members"] (collectEdges auditTables)) start start
        ∧ Relation.ReflTransGen
          (EdgeAmong ["audits", "teams", "members"] (collectEdges auditTables)) start "members")
      ∧ ∀ other ∈ ["audits", "teams", "members"],
        (auditTables.map (·.table)).idxOf "audits" ≤ (auditTables.map (·.table)).idxOf other := by
  have distinct : (auditTables.map (·.table)).Nodup := by decide +kernel
  have edge : EdgeAmong (auditTables.map (·.table)) (collectEdges auditTables) "members"
      "audits" := by decide +kernel
  have order : (orderTables auditTables (collectEdges auditTables) .unixEpoch).map (·.table) =
      ["audits", "teams", "members"] := by decide +kernel
  have broken := circle_and_declared_first_of_broken distinct .unixEpoch edge
  simp only [order] at broken
  exact ⟨distinct, edge, order, broken (by decide)⟩

/-- The edge that is broken is not on a circle: nothing follows audits. -/
theorem auditTables_broken_off_circle :
    (auditTables.map (·.table)).Nodup
      ∧ ⟨"members", "audits"⟩ ∈ collectEdges auditTables
      ∧ ((orderTables auditTables (collectEdges auditTables) .unixEpoch).map (·.table)).idxOf
          "audits" <
        ((orderTables auditTables (collectEdges auditTables) .unixEpoch).map (·.table)).idxOf
          "members"
      ∧ ¬Relation.TransGen
        (fun source target => ⟨source, target⟩ ∈ collectEdges auditTables) "audits" "audits" := by
  refine ⟨by decide +kernel, by decide +kernel, by decide +kernel, ?_⟩
  intro circle
  have edges : collectEdges auditTables =
      [⟨"members", "audits"⟩, ⟨"members", "teams"⟩, ⟨"teams", "members"⟩] := by decide +kernel
  rcases Relation.TransGen.head'_iff.mp circle with ⟨next, edge, _⟩
  simp [edges] at edge

end Migration
