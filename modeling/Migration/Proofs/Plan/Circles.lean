import Mathlib.Data.Fintype.Card
import Mathlib.Data.Set.Finite.List
import Mathlib.Logic.Relation
import Mathlib.Order.WellFounded
import Migration.Proofs.Plan.Process

namespace Migration

/-! Where all tables that are left hold each other up, a circle of them leads to each. Only there
does a table come out before one that it follows. -/

/-! ## Circles -/

/-- Where everything has something before it, walking back ends in a circle. -/
theorem exists_circle {α : Type} {before : α → α → Prop} {nodes : List α}
    (preceded : ∀ node ∈ nodes, ∃ previous ∈ nodes, before previous node) {node : α}
    (member : node ∈ nodes) :
    ∃ start, Relation.TransGen before start start ∧ Relation.ReflTransGen before start node := by
  by_contra none
  have noCircle : ∀ start, Relation.ReflTransGen before start node →
      ¬Relation.TransGen before start start :=
    fun start reaches circle => none ⟨start, circle, reaches⟩
  let Ancestor := { start : α // start ∈ nodes ∧ Relation.ReflTransGen before start node }
  let precedes : Ancestor → Ancestor → Prop := fun left right =>
    Relation.TransGen before left.1 right.1
  have finite : Finite Ancestor := by
    have nodesFinite : { start | start ∈ nodes }.Finite := List.finite_toSet nodes
    exact (nodesFinite.subset fun start inside => inside.1).to_subtype
  have transitive : IsTrans Ancestor precedes := ⟨fun _ _ _ first second => first.trans second⟩
  have irreflexive : Std.Irrefl precedes := ⟨fun start => noCircle start.1 start.2.2⟩
  have wellFounded : WellFounded precedes := Finite.wellFounded_of_trans_of_irrefl precedes
  rcases wellFounded.has_min Set.univ ⟨⟨node, member, .refl⟩, trivial⟩ with ⟨first, _, least⟩
  rcases preceded first.1 first.2.1 with ⟨previous, inside, isBefore⟩
  exact least ⟨previous, inside, .head isBefore first.2.2⟩ trivial (.single isBefore)

/-- No circle leads to a node if a rank falls along all that comes before it. -/
theorem no_circle_of_rank {α : Type} {before : α → α → Prop} {inside : α → Prop} {rank : α → Nat}
    (falls : ∀ previous node, before previous node → inside node →
      inside previous ∧ rank previous < rank node) {node : α} (isInside : inside node) (start : α)
    (circle : Relation.TransGen before start start) : ¬Relation.ReflTransGen before start node := by
  intro reaches
  have stays {first last : α} (path : Relation.TransGen before first last)
      (lastInside : inside last) : inside first ∧ rank first < rank last := by
    induction path with
    | single isBefore => exact falls _ _ isBefore lastInside
    | tail _ isBefore induction =>
        have ⟨middleInside, lower⟩ := falls _ _ isBefore lastInside
        have ⟨firstInside, lowest⟩ := induction middleInside
        exact ⟨firstInside, lowest.trans lower⟩
  have startInside : inside start := by
    rcases Relation.reflTransGen_iff_eq_or_transGen.mp reaches with rfl | path
    · exact isInside
    · exact (stays path isInside).1
  exact Nat.lt_irrefl _ (stays circle startInside).2

/-! ## Stalls -/

/-- Neither table is out yet, and the one has to come before the other. -/
def HoldsUp (tables : List PlannedTable) (edges : List Edge) (emitted : List Nat)
    (earlier later : Nat) : Prop :=
  Precedes tables edges earlier later
    ∧ Remains tables emitted earlier ∧ Remains tables emitted later

section Stalls

variable {tables : List PlannedTable} {edges : List Edge}

theorem exists_circle_of_stalled {emitted : List Nat}
    (stalled : ∀ place, ¬Free tables edges emitted place) {place : Nat}
    (remains : Remains tables emitted place) :
    ∃ start, Relation.TransGen (HoldsUp tables edges emitted) start start
      ∧ Relation.ReflTransGen (HoldsUp tables edges emitted) start place := by
  let left := (List.range tables.length).filter (· ∉ emitted)
  have mem_left (other : Nat) : other ∈ left ↔ Remains tables emitted other := by
    rw [List.mem_filter, List.mem_range, decide_eq_true_iff, Remains]
  have preceded : ∀ later ∈ left, ∃ earlier ∈ left, HoldsUp tables edges emitted earlier later := by
    intro later member
    have laterRemains := (mem_left later).mp member
    have held : ¬∀ earlier, Precedes tables edges earlier later → earlier ∈ emitted :=
      fun free => stalled later ⟨laterRemains, free⟩
    rcases not_forall.mp held with ⟨earlier, waits⟩
    rcases Classical.not_imp.mp waits with ⟨precedes, out⟩
    have earlierRemains : Remains tables emitted earlier := ⟨precedes.lt_length.1, out⟩
    exact ⟨earlier, (mem_left earlier).mpr earlierRemains, precedes, earlierRemains, laterRemains⟩
  exact exists_circle preceded ((mem_left place).mpr remains)

/-- A table comes out before one that it follows only where a circle leads to that one, and only
if it is the first of all that are left. -/
theorem Emits.circle_and_least_of_broken {order : List Nat} (emits : Emits tables edges [] order)
    {i j first second : Nat} (atI : order[i]? = some first) (atJ : order[j]? = some second)
    (precedes : Precedes tables edges first second) (broken : j < i) :
    (∃ start, Relation.TransGen (HoldsUp tables edges (order.take j)) start start
        ∧ Relation.ReflTransGen (HoldsUp tables edges (order.take j)) start first)
      ∧ IsLeast {place | Remains tables (order.take j) place} second := by
  have firstRemains : Remains tables (order.take j) first := by
    rw [← emits.mem_drop_iff]
    refine List.mem_of_getElem? (i := i - j) ?_
    rw [List.getElem?_drop, Nat.add_sub_cancel' broken.le, atI]
  rcases emits.comesNext atJ with isFree | ⟨stalled, least⟩
  · exact absurd (isFree.1.2 first precedes) firstRemains.2
  · exact ⟨exists_circle_of_stalled stalled firstRemains, least⟩

end Stalls

end Migration
