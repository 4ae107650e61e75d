import Migration.Proofs.Plan.Counters

namespace Migration

/-! The tables in the order in which they come out, each once and with all that is planned of it. -/

variable {tables : List PlannedTable} {edges : List Edge}

def arrange (tables : List PlannedTable) (edges : List Edge) : List PlannedTable :=
  (placesInOrder tables edges).map tables.get

/-- The tables in the order of their own needs. -/
def arranged (tables : List PlannedTable) : List PlannedTable :=
  arrange tables (collectEdges tables)

theorem nodup_placesInOrder (tables : List PlannedTable) (edges : List Edge) :
    (placesInOrder tables edges).Nodup :=
  (emits_placesInOrder tables edges).nodup.of_map _

theorem placesInOrder_perm (tables : List PlannedTable) (edges : List Edge) :
    (placesInOrder tables edges).Perm (List.finRange tables.length) := by
  rw [List.perm_ext_iff_of_nodup (nodup_placesInOrder tables edges) (List.nodup_finRange _)]
  intro place
  have listed : place.val ∈ (placesInOrder tables edges).map (·.val) :=
    (emits_placesInOrder tables edges).mem_iff.mpr ⟨place.isLt, List.not_mem_nil⟩
  exact iff_of_true ((List.mem_map_of_injective Fin.val_injective).mp listed)
    (List.mem_finRange place)

/-- Every table is arranged, and none twice. -/
theorem arrange_perm (tables : List PlannedTable) (edges : List Edge) :
    (arrange tables edges).Perm tables := by
  have whole : (List.finRange tables.length).map tables.get = tables :=
    List.map_get_finRange tables
  have mapped := (placesInOrder_perm tables edges).map tables.get
  rwa [whole] at mapped

theorem arranged_perm (tables : List PlannedTable) : (arranged tables).Perm tables :=
  arrange_perm tables (collectEdges tables)

theorem map_some_arrange (tables : List PlannedTable) (edges : List Edge) :
    (arrange tables edges).map some =
      ((placesInOrder tables edges).map (·.val)).map (tables[·]?) := by
  rw [arrange, List.map_map, List.map_map]
  exact List.map_congr_left fun place _ => (List.getElem?_eq_getElem place.isLt).symm

theorem filterMap_placesInOrder (tables : List PlannedTable) (edges : List Edge) :
    ((placesInOrder tables edges).map (·.val)).filterMap (tables[·]?) = arrange tables edges := by
  have present := congrArg (List.filterMap id) (map_some_arrange tables edges)
  simpa only [List.filterMap_map, Function.id_comp, Function.comp_def, id_eq, List.filterMap_some]
    using present.symm

theorem exists_place_of_arrange {i : Nat} {planned : PlannedTable}
    (atI : (arrange tables edges)[i]? = some planned) :
    ∃ place, ((placesInOrder tables edges).map (·.val))[i]? = some place
      ∧ tables[place]? = some planned := by
  have atSome : ((arrange tables edges).map some)[i]? = some (some planned) := by
    rw [List.getElem?_map, atI, Option.map_some]
  rw [map_some_arrange, List.getElem?_map] at atSome
  exact Option.map_eq_some_iff.mp atSome

/-- The slot of a table is still filled when its place comes up, for no place comes up twice. -/
theorem takeStamped_eq (base : Timestamp) {order : List (Fin tables.length)}
    (distinct : order.Nodup) {slots : Vector (Option PlannedTable) tables.length}
    (filled : ∀ place ∈ order, slots.get place = some (tables.get place)) (position : Nat) :
    takeStamped base (order.zipIdx position) slots =
      ((order.map tables.get).zipIdx position).map fun (planned, position) =>
        .stamp base planned position := by
  induction order generalizing slots position with
  | nil => rfl
  | cons place rest induction =>
      have ⟨fresh, restDistinct⟩ := List.nodup_cons.mp distinct
      have ⟨placeFilled, restFilled⟩ := List.forall_mem_cons.mp filled
      have stillFilled : ∀ other ∈ rest,
          (slots.set place none).get other = some (tables.get other) := by
        intro other member
        have differs : place ≠ other := fun same => fresh (same ▸ member)
        rw [get_set_place, if_neg differs]
        exact restFilled other member
      rw [List.zipIdx_cons, takeStamped, placeFilled, induction restDistinct stillFilled]
      rfl

theorem orderTables_eq (tables : List PlannedTable) (edges : List Edge) (base : Timestamp) :
    orderTables tables edges base =
      (arrange tables edges).zipIdx.map fun (planned, place) => .stamp base planned place :=
  takeStamped_eq base (nodup_placesInOrder tables edges)
    (fun place _ => Vector.getElem_ofFn place.isLt) 0

/-- The tables are ordered by the process, whatever their names and the edges between them. Its
order is the only one there is, every table is in it once, and nothing of a table is lost. -/
theorem orderTables_eq_of_emits (tables : List PlannedTable) (edges : List Edge)
    (base : Timestamp) :
    ∃ (order : List Nat) (arranged : List PlannedTable),
      (∀ other, Emits tables edges [] other ↔ other = order)
      ∧ order.Perm (List.range tables.length)
      ∧ arranged.map some = order.map (tables[·]?)
      ∧ arranged.Perm tables
      ∧ orderTables tables edges base =
        arranged.zipIdx.map fun (planned, place) => .stamp base planned place := by
  have emits := emits_placesInOrder tables edges
  exact ⟨(placesInOrder tables edges).map (·.val), arrange tables edges,
    fun other => ⟨fun isOther => isOther.unique emits, fun same => same ▸ emits⟩,
    emits.perm_range, map_some_arrange tables edges, arrange_perm tables edges,
    orderTables_eq tables edges base⟩

end Migration
