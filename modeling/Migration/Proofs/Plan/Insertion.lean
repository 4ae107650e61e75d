import Mathlib.Order.Monotone.Basic
import Migration.Proofs.ByKey.Inserted
import Migration.Proofs.Plan.Edges

namespace Migration

/-! A table that neither needs another nor is needed comes out somewhere, and all the others come
out as if it were not there. -/

/-! ## Numbers of places -/

/-- The number of a place once a table has been put in before the place `gap`. -/
def placeAround (gap place : Nat) : Nat :=
  if place < gap then place else place + 1

theorem placeAround_ne_gap (gap place : Nat) : placeAround gap place ≠ gap := by
  rw [placeAround]
  split <;> omega

theorem placeAround_strictMono (gap : Nat) : StrictMono (placeAround gap) := by
  intro left right lower
  rw [placeAround, placeAround]
  split <;> split <;> omega

theorem exists_placeAround {gap place : Nat} (differs : place ≠ gap) :
    ∃ before, placeAround gap before = place := by
  rcases lt_or_gt_of_ne differs with lower | higher
  · exact ⟨place, if_pos lower⟩
  · refine ⟨place - 1, ?_⟩
    rw [placeAround, if_neg] <;> omega

theorem exists_place_of_remains {tables : List PlannedTable} {emitted : List Nat} {gap place : Nat}
    (out : gap ∈ emitted) (remains : Remains tables emitted place) :
    ∃ before, placeAround gap before = place :=
  exists_placeAround fun same => remains.2 (same ▸ out)

/-! ## A table put in -/

section Around

variable {front back : List PlannedTable} {table : PlannedTable}

theorem getElem?_around (place : Nat) :
    (front ++ [table] ++ back)[placeAround front.length place]? = (front ++ back)[place]? := by
  rw [placeAround, List.append_assoc]
  split
  case isTrue within => rw [List.getElem?_append_left within, List.getElem?_append_left within]
  case isFalse beyond =>
    have later : front.length ≤ place := Nat.not_lt.mp beyond
    rw [List.getElem?_append_right (Nat.le_succ_of_le later), List.getElem?_append_right later,
      Nat.succ_sub later, List.singleton_append, List.getElem?_cons_succ]

theorem findIdx?_around {name : String} (other : table.table ≠ name) :
    (front ++ [table] ++ back).findIdx? (·.table = name) =
      ((front ++ back).findIdx? (·.table = name)).map (placeAround front.length) := by
  have skipped : decide (table.table = name) = false := by simpa using other
  rw [List.append_assoc, List.singleton_append, List.findIdx?_append, List.findIdx?_append,
    List.findIdx?_cons]
  simp only [skipped, Bool.false_eq_true, if_false]
  cases found : front.findIdx? (·.table = name) with
  | some place =>
      have within := (List.findIdx?_eq_some_iff_findIdx_eq.mp found).1
      simp [placeAround, within]
  | none =>
      cases back.findIdx? (·.table = name) with
      | none => rfl
      | some place =>
          have beyond : ¬place + front.length < front.length := by omega
          simp [placeAround, beyond]
          omega

variable {edges : List Edge}
  (apart : ∀ edge ∈ edges, table.table ≠ edge.source ∧ table.table ≠ edge.target)

include apart

/-- The others precede each other as they did, and the table that is put in none of them. -/
theorem precedes_around {earlier later : Nat} :
    Precedes (front ++ [table] ++ back) edges earlier later ↔
      ∃ first second, placeAround front.length first = earlier
        ∧ placeAround front.length second = later
        ∧ Precedes (front ++ back) edges first second := by
  constructor
  · rintro ⟨edge, member, differ, source, target⟩
    rw [findIdx?_around (apart edge member).1] at source
    rw [findIdx?_around (apart edge member).2] at target
    rcases Option.map_eq_some_iff.mp source with ⟨first, sourceFound, atEarlier⟩
    rcases Option.map_eq_some_iff.mp target with ⟨second, targetFound, atLater⟩
    exact ⟨first, second, atEarlier, atLater, edge, member, differ, sourceFound, targetFound⟩
  · rintro ⟨first, second, rfl, rfl, edge, member, differ, source, target⟩
    refine ⟨edge, member, differ, ?_, ?_⟩
    · rw [findIdx?_around (apart edge member).1, source, Option.map_some]
    · rw [findIdx?_around (apart edge member).2, target, Option.map_some]

/-! ## The process around the table -/

/-- Of the others the same are out. -/
def Mirrors (gap : Nat) (emitted wider : List Nat) : Prop :=
  ∀ place, placeAround gap place ∈ wider ↔ place ∈ emitted

omit apart in
theorem Mirrors.concat {gap : Nat} {emitted wider : List Nat} (mirrors : Mirrors gap emitted wider)
    (place : Nat) : Mirrors gap (emitted ++ [place]) (wider ++ [placeAround gap place]) := by
  intro other
  rw [List.mem_append, List.mem_append, mirrors other, List.mem_singleton, List.mem_singleton,
    (placeAround_strictMono gap).injective.eq_iff]

omit apart in
theorem Mirrors.concat_gap {gap : Nat} {emitted wider : List Nat}
    (mirrors : Mirrors gap emitted wider) : Mirrors gap emitted (wider ++ [gap]) := by
  intro other
  rw [List.mem_append, mirrors other, List.mem_singleton]
  exact or_iff_left (placeAround_ne_gap gap other)

variable {emitted wider : List Nat} (mirrors : Mirrors front.length emitted wider)

include mirrors

omit apart in
theorem remains_around {place : Nat} :
    Remains (front ++ [table] ++ back) wider (placeAround front.length place) ↔
      Remains (front ++ back) emitted place := by
  have inside : placeAround front.length place < (front ++ [table] ++ back).length ↔
      place < (front ++ back).length := by
    simp only [List.length_append, List.length_singleton, placeAround]
    split <;> omega
  rw [Remains, Remains, inside, mirrors place]

theorem free_around {place : Nat} :
    Free (front ++ [table] ++ back) edges wider (placeAround front.length place) ↔
      Free (front ++ back) edges emitted place := by
  rw [Free, Free, remains_around mirrors]
  refine and_congr_right fun _ => ?_
  constructor
  · intro free earlier precedes
    exact (mirrors earlier).mp (free _ ((precedes_around apart).mpr ⟨_, _, rfl, rfl, precedes⟩))
  · intro free earlier precedes
    rcases (precedes_around apart).mp precedes with ⟨first, second, rfl, same, before⟩
    rcases (placeAround_strictMono front.length).injective same with rfl
    exact (mirrors first).mpr (free first before)

/-- Once the table is out, the others follow as they would without it. -/
theorem comesNext_around (out : front.length ∈ wider) {place : Nat}
    (isNext : ComesNext (front ++ back) edges emitted place) :
    ComesNext (front ++ [table] ++ back) edges wider (placeAround front.length place) := by
  have monotone := (placeAround_strictMono front.length).monotone
  rcases isNext with ⟨free, lowest⟩ | ⟨stalled, remains, lowest⟩
  · refine .inl ⟨(free_around apart mirrors).mpr free, fun other otherFree => ?_⟩
    rcases exists_place_of_remains out otherFree.1 with ⟨before, rfl⟩
    exact monotone (lowest ((free_around apart mirrors).mp otherFree))
  · refine .inr ⟨fun other otherFree => ?_, (remains_around mirrors).mpr remains,
      fun other otherRemains => ?_⟩
    · rcases exists_place_of_remains out otherFree.1 with ⟨before, rfl⟩
      exact stalled before ((free_around apart mirrors).mp otherFree)
    · rcases exists_place_of_remains out otherRemains with ⟨before, rfl⟩
      exact monotone (lowest ((remains_around mirrors).mp otherRemains))

theorem emits_around (out : front.length ∈ wider) {rest : List Nat}
    (emits : Emits (front ++ back) edges emitted rest) :
    Emits (front ++ [table] ++ back) edges wider (rest.map (placeAround front.length)) := by
  induction emits generalizing wider with
  | done exhausted =>
      refine .done fun other remains => ?_
      rcases exists_place_of_remains out remains with ⟨before, rfl⟩
      exact exhausted before ((remains_around mirrors).mp remains)
  | next isNext _ induction =>
      exact .next (comesNext_around apart mirrors out isNext)
        (induction (mirrors.concat _) (List.mem_append_left _ out))

/-- The table is free from the start, so it comes out at once unless one before it is free. -/
theorem exists_emits_gap_first (left : front.length ∉ wider)
    (first : ∀ place, Free (front ++ back) edges emitted place →
      front.length ≤ placeAround front.length place)
    {rest : List Nat} (emits : Emits (front ++ back) edges emitted rest) :
    ∃ order, Emits (front ++ [table] ++ back) edges wider order
      ∧ Inserted [front.length] (rest.map (placeAround front.length)) order := by
  have free : Free (front ++ [table] ++ back) edges wider front.length := by
    refine ⟨⟨by simp, left⟩, fun earlier precedes => ?_⟩
    rcases (precedes_around apart).mp precedes with ⟨_, second, _, same, _⟩
    exact absurd same (placeAround_ne_gap front.length second)
  have lowest : ∀ other, Free (front ++ [table] ++ back) edges wider other →
      front.length ≤ other := by
    intro other otherFree
    by_cases same : other = front.length
    · exact same.ge
    · rcases exists_placeAround same with ⟨before, rfl⟩
      exact first before ((free_around apart mirrors).mp otherFree)
  have out := List.mem_append_right wider (List.mem_singleton_self front.length)
  have later := emits_around apart mirrors.concat_gap out emits
  exact ⟨_, .next (.inl ⟨free, lowest⟩) later, [], _, rfl, rfl⟩

/-- A free table before the one that is put in comes out first as well. -/
theorem comesNext_around_of_lt {place : Nat}
    (isLeast : IsLeast {place | Free (front ++ back) edges emitted place} place)
    (lower : placeAround front.length place < front.length) :
    ComesNext (front ++ [table] ++ back) edges wider (placeAround front.length place) := by
  refine .inl ⟨(free_around apart mirrors).mpr isLeast.1, fun other otherFree => ?_⟩
  by_cases same : other = front.length
  · exact same ▸ lower.le
  · rcases exists_placeAround same with ⟨before, rfl⟩
    exact (placeAround_strictMono front.length).monotone
      (isLeast.2 ((free_around apart mirrors).mp otherFree))

/-- The others keep their order even where they hold each other up in a circle: the table comes
out before the first of these. -/
theorem exists_emits_inserted (left : front.length ∉ wider) {rest : List Nat}
    (emits : Emits (front ++ back) edges emitted rest) :
    ∃ order, Emits (front ++ [table] ++ back) edges wider order
      ∧ Inserted [front.length] (rest.map (placeAround front.length)) order := by
  induction emits generalizing wider with
  | done exhausted =>
      exact exists_emits_gap_first apart mirrors left
        (fun place free => absurd free.1 (exhausted place)) (.done exhausted)
  | @next emitted rest place isNext continues induction =>
      by_cases first : ∀ other, Free (front ++ back) edges emitted other →
          front.length ≤ placeAround front.length other
      · exact exists_emits_gap_first apart mirrors left first (.next isNext continues)
      · have ⟨other, sooner⟩ := not_forall.mp first
        have ⟨otherFree, otherLower⟩ := Classical.not_imp.mp sooner
        rcases isNext with isLeast | ⟨stalled, _⟩
        · have lower : placeAround front.length place < front.length :=
            ((placeAround_strictMono front.length).monotone (isLeast.2 otherFree)).trans_lt
              (not_le.mp otherLower)
          have stillLeft : front.length ∉ wider ++ [placeAround front.length place] := by
            rw [List.mem_append, List.mem_singleton]
            exact not_or.mpr ⟨left, lower.ne'⟩
          rcases induction (mirrors.concat place) stillLeft with ⟨order, later, inserted⟩
          refine ⟨_, .next (comesNext_around_of_lt apart mirrors isLeast lower) later, ?_⟩
          simpa using inserted.append [placeAround front.length place] []
        · exact absurd otherFree (stalled other)

end Around

/-- The others come out in the order in which they would without the table. -/
theorem arranged_apart {table : PlannedTable} {tables longer : List PlannedTable}
    (inserted : Inserted [table] tables longer) (needless : table.needs = [])
    (apart : ∀ other ∈ tables, other.table ≠ table.table ∧ table.table ∉ other.needs) :
    Inserted [table] (arranged tables) (arranged longer) := by
  rcases inserted with ⟨front, back, rfl, rfl⟩
  have edges : collectEdges (front ++ [table] ++ back) = collectEdges (front ++ back) := by
    simp [collectEdges, needless]
  have edgesApart : ∀ edge ∈ collectEdges (front ++ back),
      table.table ≠ edge.source ∧ table.table ≠ edge.target := by
    intro edge member
    rcases mem_collectEdges.mp member with ⟨other, isOther, needed, target⟩
    rcases apart other isOther with ⟨differs, unneeded⟩
    exact ⟨fun same => unneeded (same ▸ needed), fun same => differs (same.trans target).symm⟩
  have start : Mirrors front.length [] [] := fun _ => iff_of_false List.not_mem_nil List.not_mem_nil
  rcases exists_emits_inserted edgesApart start List.not_mem_nil
    (emits_placesInOrder (front ++ back) (collectEdges (front ++ back))) with
    ⟨order, emits, placed⟩
  have isOrder := emits.unique (emits_placesInOrder (front ++ [table] ++ back) _)
  have planned := placed.filterMap ((front ++ [table] ++ back)[·]?)
  rw [isOrder, filterMap_placesInOrder, List.filterMap_map] at planned
  have others : ((front ++ [table] ++ back)[·]?) ∘ placeAround front.length =
      ((front ++ back)[·]?) := funext getElem?_around
  rw [others, filterMap_placesInOrder] at planned
  rw [arranged, arranged, edges]
  simpa using planned

end Migration
