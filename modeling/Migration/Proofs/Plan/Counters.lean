import Migration.Proofs.Plan.Graph

namespace Migration

/-! The tables come out by counts of what each still waits for. Whatever comes out, in its turn or
because a circle holds up all that is left, the counts stay right for the others; so the order is
that of the process that knows only what is out. -/

/-! ## Ascending places -/

section Ascending

variable {count : Nat} {place other : Fin count} {places : List (Fin count)}

theorem mem_insertPlace : other ∈ insertPlace place places ↔ other = place ∨ other ∈ places := by
  induction places with
  | nil => simp [insertPlace]
  | cons first rest induction =>
      rw [insertPlace]
      split
      case isTrue => rw [List.mem_cons]
      case isFalse =>
        split
        case isTrue same => simp [same]
        case isFalse => rw [List.mem_cons, induction, List.mem_cons, or_left_comm]

theorem ascending_insertPlace (ascending : places.Pairwise (· < ·)) :
    (insertPlace place places).Pairwise (· < ·) := by
  induction places with
  | nil => exact List.pairwise_singleton _ place
  | cons first rest induction =>
      have ⟨firstLower, restAscending⟩ := List.pairwise_cons.mp ascending
      rw [insertPlace]
      split
      case isTrue lower =>
        refine List.pairwise_cons.mpr ⟨?_, ascending⟩
        exact List.forall_mem_cons.mpr ⟨lower, fun _ later => lower.trans (firstLower _ later)⟩
      case isFalse notLower =>
        split
        case isTrue => exact ascending
        case isFalse differs =>
          refine List.pairwise_cons.mpr ⟨fun later member => ?_, induction restAscending⟩
          rcases mem_insertPlace.mp member with rfl | inRest
          · exact lt_of_le_of_ne (not_lt.mp notLower) (Ne.symm differs)
          · exact firstLower later inRest

theorem le_of_find?_finRange {test : Fin count → Bool}
    (found : (List.finRange count).find? test = some place) (passes : test other = true) :
    place ≤ other := by
  rcases List.find?_eq_some_iff_append.mp found with ⟨_, before, after, split, fails⟩
  have ascending := List.pairwise_lt_finRange count
  rw [split, List.pairwise_append, List.pairwise_cons] at ascending
  have listed : other ∈ before ++ place :: after := split ▸ List.mem_finRange other
  rcases List.mem_append.mp listed with isBefore | isAfter
  · simpa [passes] using fails other isBefore
  · rcases List.mem_cons.mp isAfter with rfl | later
    · exact le_rfl
    · exact (ascending.2.1.1 other later).le

end Ascending

namespace Progress

variable {count : Nat}

/-! ## Counting down -/

/-- Each of the places that is not out has one place less to wait for, and it is ready if that was
the last. -/
structure Settled (places : List (Fin count)) (before after : Progress count) : Prop where
  done : after.done = before.done
  order : after.order = before.order
  lowered : ∀ other ∈ places, before.done.get other = false →
    after.inDegrees.get other = before.inDegrees.get other - 1
  kept : ∀ other ∉ places, after.inDegrees.get other = before.inDegrees.get other
  ready : ∀ other, other ∈ after.ready ↔ other ∈ before.ready
    ∨ other ∈ places ∧ before.done.get other = false ∧ before.inDegrees.get other - 1 = 0
  ascending : before.ready.Pairwise (· < ·) → after.ready.Pairwise (· < ·)

theorem settled_settle (progress : Progress count) (place : Fin count) :
    Settled [place] progress (progress.settle place) := by
  rw [settle]
  split
  case isTrue out =>
    have none : ∀ other ∈ [place], progress.done.get other ≠ false := by
      rintro other member left
      rcases List.mem_singleton.mp member with rfl
      exact Bool.noConfusion (out.symm.trans left)
    exact
      { done := rfl
        order := rfl
        lowered := fun other member left => absurd left (none other member)
        kept := fun _ _ => rfl
        ready := fun other => (or_iff_left fun more => none other more.1 more.2.1).symm
        ascending := id }
  case isFalse left =>
    refine ⟨rfl, rfl, fun other member _ => ?_, fun other absent => ?_, fun other => ?_,
      fun ascending => ?_⟩
    · rcases List.mem_singleton.mp member with rfl
      exact (get_set_place ..).trans (if_pos rfl)
    · have differs : place ≠ other := fun same => absent (List.mem_singleton.mpr same.symm)
      exact (get_set_place ..).trans (if_neg differs)
    · dsimp only
      rw [List.mem_singleton]
      split
      case isTrue last =>
        rw [mem_insertPlace, or_comm]
        refine or_congr_right ⟨?_, fun settled => settled.1⟩
        rintro rfl
        exact ⟨rfl, by simpa using left, last⟩
      case isFalse more =>
        refine (or_iff_left ?_).symm
        rintro ⟨rfl, _, last⟩
        exact more last
    · dsimp only
      split
      case isTrue => exact ascending_insertPlace ascending
      case isFalse => exact ascending

theorem settled_foldl {places : List (Fin count)} (distinct : places.Nodup)
    (progress : Progress count) : Settled places progress (places.foldl settle progress) := by
  induction places generalizing progress with
  | nil => exact ⟨rfl, rfl, by simp, fun _ _ => rfl, by simp, id⟩
  | cons place rest induction =>
      have ⟨fresh, restDistinct⟩ := List.nodup_cons.mp distinct
      have first := settled_settle progress place
      have later := induction restDistinct (progress.settle place)
      -- The others count from what they had, for no place is settled twice.
      have unchanged : ∀ other ∈ rest,
          (progress.settle place).inDegrees.get other = progress.inDegrees.get other := by
        intro other inRest
        apply first.kept
        rintro same
        exact fresh (List.mem_singleton.mp same ▸ inRest)
      rw [List.foldl_cons]
      refine ⟨later.done.trans first.done, later.order.trans first.order, ?_, ?_, ?_,
        later.ascending ∘ first.ascending⟩
      · intro other member left
        rcases List.mem_cons.mp member with rfl | inRest
        · exact (later.kept _ fresh).trans (first.lowered _ (List.mem_singleton_self _) left)
        · rw [later.lowered other inRest (first.done ▸ left), unchanged other inRest]
      · intro other absent
        have ⟨differs, notInRest⟩ := not_or.mp (mt List.mem_cons.mpr absent)
        exact (later.kept other notInRest).trans
          (first.kept other (mt List.mem_singleton.mp differs))
      · intro other
        have counted : other ∈ rest ∧ progress.done.get other = false
              ∧ (progress.settle place).inDegrees.get other - 1 = 0 ↔
            other ∈ rest ∧ progress.done.get other = false ∧ progress.inDegrees.get other - 1 = 0 :=
          and_congr_right fun inRest => by rw [unchanged other inRest]
        rw [later.ready, first.ready, first.done, counted, or_assoc, ← or_and_right,
          List.mem_singleton, List.mem_cons]

/-! ## What the counts say -/

/-- What is known of the places that are not out yet: how many of those that each follows are not
out either, and which follow none of these. -/
structure Tracks (graph : DependencyGraph count) (progress : Progress count) : Prop where
  done : ∀ place : Fin count, progress.done.get place = true ↔ place ∈ progress.order
  nodup : progress.order.Nodup
  inDegrees : ∀ place ∉ progress.order,
    progress.inDegrees.get place = (graph.blockers progress.order place).card
  ready : ∀ place, place ∈ progress.ready ↔
    place ∉ progress.order ∧ graph.blockers progress.order place = ∅
  ascending : progress.ready.Pairwise (· < ·)

variable {graph : DependencyGraph count} {progress : Progress count}

theorem tracks_start (counted : graph.Counted) : Tracks graph (start graph) where
  done place := by
    have left : (start graph).done.get place = false := Vector.getElem_replicate place.isLt
    rw [left]
    exact iff_of_false Bool.false_ne_true List.not_mem_nil
  nodup := List.nodup_nil
  inDegrees place _ := counted.inDegrees place
  ready place := by
    rw [start, List.mem_filter, and_iff_right (List.mem_finRange place), decide_eq_true_iff,
      counted.inDegrees place, Finset.card_eq_zero]
    exact (and_iff_right List.not_mem_nil).symm
  ascending := (List.pairwise_lt_finRange count).filter _

/-- Whichever place comes out, ready or not, the counts of the others are right again. -/
theorem Tracks.emit (tracks : Tracks graph progress) (counted : graph.Counted)
    {place : Fin count} (left : place ∉ progress.order) {ready : List (Fin count)}
    (stays : ∀ other, other ∈ ready ↔ other ∈ progress.ready ∧ other ≠ place)
    (ascending : ready.Pairwise (· < ·)) :
    Tracks graph ({ progress with ready := ready }.emit graph place) := by
  let begun : Progress count := { progress with
    ready := ready
    done := progress.done.set place true
    order := progress.order ++ [place] }
  have settled : Settled (graph.dependents.get place) begun
      ({ progress with ready := ready }.emit graph place) :=
    settled_foldl (counted.nodup place) begun
  have done (other : Fin count) : begun.done.get other = true ↔ other ∈ begun.order := by
    rw [List.mem_append, List.mem_singleton, ← tracks.done other, get_set_place]
    split
    case isTrue same => simp [same]
    case isFalse differs => simp [Ne.symm differs]
  have waiting (other : Fin count) : begun.done.get other = false ↔ other ∉ begun.order := by
    rw [← done, Bool.not_eq_true]
  have mem_order {other : Fin count} : other ∉ begun.order ↔
      other ∉ progress.order ∧ other ≠ place := by
    rw [List.mem_append, List.mem_singleton, not_or]
  have blockers (other : Fin count) : graph.blockers begun.order other =
      (graph.blockers progress.order other).erase place := by
    ext earlier
    rw [Finset.mem_erase, DependencyGraph.mem_blockers, DependencyGraph.mem_blockers, mem_order]
    tauto
  have place_mem {other : Fin count} : place ∈ graph.blockers progress.order other ↔
      other ∈ graph.dependents.get place :=
    DependencyGraph.mem_blockers.trans (and_iff_left left)
  refine ⟨?_, ?_, ?_, ?_, settled.ascending ascending⟩
  · rw [settled.done, settled.order]
    exact done
  · rw [settled.order]
    exact List.nodup_append_comm.mp (List.nodup_cons.mpr ⟨left, tracks.nodup⟩)
  · intro other remains
    rw [settled.order] at remains ⊢
    have known : begun.inDegrees.get other = (graph.blockers progress.order other).card :=
      tracks.inDegrees other (mem_order.mp remains).1
    rw [blockers]
    by_cases waits : other ∈ graph.dependents.get place
    · rw [settled.lowered other waits ((waiting other).mpr remains), known,
        Finset.card_erase_of_mem (place_mem.mpr waits)]
    · rw [settled.kept other waits, known, Finset.erase_eq_of_notMem (mt place_mem.mp waits)]
  · intro other
    have isReady : other ∈ begun.ready ↔
        other ∉ begun.order ∧ graph.blockers progress.order other = ∅ := by
      rw [mem_order, stays other, tracks.ready other, and_right_comm]
    rw [settled.ready, settled.order, isReady, waiting, blockers]
    by_cases waits : other ∈ graph.dependents.get place
    · have held := place_mem.mpr waits
      rw [and_iff_right waits, ← and_or_left]
      refine and_congr_right fun remains => ?_
      have known : begun.inDegrees.get other = (graph.blockers progress.order other).card :=
        tracks.inDegrees other (mem_order.mp remains).1
      rw [or_iff_right (Finset.ne_empty_of_mem held), known, ← Finset.card_erase_of_mem held,
        Finset.card_eq_zero]
    · rw [or_iff_left fun settledHere => waits settledHere.1,
        Finset.erase_eq_of_notMem (mt place_mem.mp waits)]

/-! ## Whose turn it is -/

/-- No place that is out is ready, so none is passed over. -/
theorem Tracks.dropWhile_ready (tracks : Tracks graph progress) :
    progress.ready.dropWhile (progress.done.get ·) = progress.ready := by
  cases ready : progress.ready with
  | nil => rfl
  | cons place rest =>
      have left := ((tracks.ready place).mp (ready ▸ List.mem_cons_self)).1
      exact List.dropWhile_cons_of_neg (mt (tracks.done place).mp left)

/-- It is the turn of the first place that is ready, or else of the first that is left. -/
theorem Tracks.next?_cases (tracks : Tracks graph progress) {place : Fin count}
    {ready : List (Fin count)} (isNext : progress.next? = some (place, ready)) :
    progress.ready = place :: ready
      ∨ (progress.ready = [] ∧ ready = []) ∧ place ∉ progress.order
        ∧ ∀ other ∉ progress.order, place ≤ other := by
  have left (other : Fin count) : (!progress.done.get other) = true ↔ other ∉ progress.order := by
    rw [← tracks.done other, Bool.not_eq_true', Bool.not_eq_true]
  rw [next?, tracks.dropWhile_ready] at isNext
  split at isNext
  case h_1 first rest whole =>
    rcases Prod.mk.inj (Option.some.inj isNext) with ⟨rfl, rfl⟩
    exact .inl whole
  case h_2 stalled =>
    rcases Option.map_eq_some_iff.mp isNext with ⟨first, found, same⟩
    rcases Prod.mk.inj same with ⟨rfl, rfl⟩
    have isLeft := List.find?_some found
    exact .inr ⟨⟨stalled, rfl⟩, (left first).mp isLeft,
      fun other remains => le_of_find?_finRange found ((left other).mpr remains)⟩

theorem Tracks.exists_next? (tracks : Tracks graph progress)
    (unfinished : progress.order.length < count) :
    ∃ place ready, progress.next? = some (place, ready) := by
  rw [next?, tracks.dropWhile_ready]
  split
  case h_1 place rest _ => exact ⟨place, rest, rfl⟩
  case h_2 =>
    have remaining : ∃ place, place ∉ progress.order := by
      by_contra none
      have all : List.finRange count ⊆ progress.order := fun place _ =>
        not_not.mp (not_exists.mp none place)
      have enough := ((List.nodup_finRange count).subperm all).length_le
      rw [List.length_finRange] at enough
      exact Nat.not_lt.mpr enough unfinished
    rcases remaining with ⟨place, left⟩
    have notDone : (!progress.done.get place) = true := by
      rw [Bool.not_eq_true', ← Bool.not_eq_true]
      exact mt (tracks.done place).mp left
    cases found : (List.finRange count).find? (!progress.done.get ·) with
    | some first => exact ⟨first, [], rfl⟩
    | none =>
        exact absurd notDone (List.find?_eq_none.mp found place (List.mem_finRange place))

theorem emit_order (counted : graph.Counted) (progress : Progress count) (place : Fin count) :
    (progress.emit graph place).order = progress.order ++ [place] :=
  (settled_foldl (counted.nodup place) _).order

/-- The counts stay right with every step, also with one that a circle forces. -/
theorem Tracks.step (tracks : Tracks graph progress) (counted : graph.Counted)
    {place : Fin count} {ready : List (Fin count)}
    (isNext : progress.next? = some (place, ready)) :
    Tracks graph ({ progress with ready := ready }.emit graph place) := by
  rcases tracks.next?_cases isNext with whole | ⟨⟨stalled, rfl⟩, left, _⟩
  · have ascending := tracks.ascending
    rw [whole] at ascending
    have ⟨lower, restAscending⟩ := List.pairwise_cons.mp ascending
    have left := ((tracks.ready place).mp (whole ▸ List.mem_cons_self)).1
    refine tracks.emit counted left (fun other => ?_) restAscending
    rw [whole, List.mem_cons, or_and_right]
    constructor
    · exact fun later => .inr ⟨later, (lower other later).ne'⟩
    · rintro (⟨same, differs⟩ | ⟨later, _⟩)
      · exact absurd same differs
      · exact later
  · refine tracks.emit counted left (fun other => ?_) .nil
    simp [stalled]

end Progress

/-! ## The order of the process -/

section Process

variable {tables : List PlannedTable} {edges : List Edge} {progress : Progress tables.length}

theorem remains_iff {order : List (Fin tables.length)} {place : Fin tables.length} :
    Remains tables (order.map (·.val)) place ↔ place ∉ order := by
  rw [Remains, and_iff_right place.isLt, List.mem_map_of_injective Fin.val_injective]

namespace Progress.Tracks

variable (tracks : Tracks (dependencyGraph tables edges) progress)

include tracks

theorem free_iff {place : Fin tables.length} :
    Free tables edges (progress.order.map (·.val)) place ↔ place ∈ progress.ready := by
  rw [Free, remains_iff, tracks.ready, Finset.eq_empty_iff_forall_notMem]
  refine and_congr_right fun _ => ?_
  simp only [DependencyGraph.mem_blockers, mem_dependents_dependencyGraph, not_and, not_not]
  constructor
  · intro free earlier precedes
    exact (List.mem_map_of_injective Fin.val_injective).mp (free earlier precedes)
  · intro free earlier precedes
    have inside := precedes.lt_length.1
    exact List.mem_map_of_mem (free ⟨earlier, inside⟩ precedes)

theorem comesNext {place : Fin tables.length} {ready : List (Fin tables.length)}
    (isNext : progress.next? = some (place, ready)) :
    ComesNext tables edges (progress.order.map (·.val)) place := by
  rcases tracks.next?_cases isNext with whole | ⟨⟨stalled, _⟩, left, least⟩
  · have ascending := tracks.ascending
    rw [whole, List.pairwise_cons] at ascending
    refine .inl ⟨tracks.free_iff.mpr (whole ▸ List.mem_cons_self), fun other free => ?_⟩
    have isReady : ⟨other, free.1.1⟩ ∈ progress.ready := tracks.free_iff.mp free
    rw [whole, List.mem_cons] at isReady
    rcases isReady with rfl | later
    · exact le_rfl
    · exact (ascending.1 _ later).le
  · refine .inr ⟨fun other free => ?_, remains_iff.mpr left, fun other remains => ?_⟩
    · have isReady : ⟨other, free.1.1⟩ ∈ progress.ready := tracks.free_iff.mp free
      rw [stalled] at isReady
      contradiction
    · exact least ⟨other, remains.1⟩ (remains_iff.mp remains)

/-- From counts that are right on, the tables that are left come out as in the process. -/
theorem exists_emits_run {left : Nat} (enough : progress.order.length + left = tables.length) :
    ∃ rest, (progress.run (dependencyGraph tables edges) left).order = progress.order ++ rest
      ∧ Emits tables edges (progress.order.map (·.val)) (rest.map (·.val)) := by
  induction left generalizing progress with
  | zero =>
      refine ⟨[], (List.append_nil _).symm, .done fun place remains => ?_⟩
      have isLeft : ⟨place, remains.1⟩ ∉ progress.order := remains_iff.mp remains
      have distinct := List.nodup_cons.mpr ⟨isLeft, tracks.nodup⟩
      have fits := (distinct.subperm fun other _ => List.mem_finRange other).length_le
      rw [List.length_cons, List.length_finRange] at fits
      omega
  | succ left induction =>
      have counted := counted_dependencyGraph tables edges
      rcases tracks.exists_next? (by omega) with ⟨place, ready, isNext⟩
      let emitted := { progress with ready := ready }.emit (dependencyGraph tables edges) place
      have isStep : progress.step? (dependencyGraph tables edges) = some emitted := by
        rw [step?, isNext]
        rfl
      have order : emitted.order = progress.order ++ [place] := emit_order counted _ place
      have tracksNext := tracks.step counted isNext
      have enoughNext : emitted.order.length + left = tables.length := by
        rw [order, List.length_append, List.length_singleton]
        omega
      rcases induction tracksNext enoughNext with ⟨rest, whole, emits⟩
      refine ⟨place :: rest, ?_, .next (tracks.comesNext isNext) ?_⟩
      · rw [run, isStep, List.append_cons, ← order]
        exact whole
      · rwa [order, List.map_append, List.map_singleton] at emits

end Progress.Tracks

/-- The tables come out as in the process. -/
theorem emits_placesInOrder (tables : List PlannedTable) (edges : List Edge) :
    Emits tables edges [] ((placesInOrder tables edges).map (·.val)) := by
  have tracks := Progress.tracks_start (counted_dependencyGraph tables edges)
  rcases tracks.exists_emits_run (Nat.zero_add _) with ⟨rest, whole, emits⟩
  have order : placesInOrder tables edges = rest := whole
  rw [order]
  exact emits

end Process

end Migration
