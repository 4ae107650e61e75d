import Mathlib.Data.List.Nodup
import Mathlib.Data.List.Perm.Basic
import Mathlib.Order.Bounds.Basic
import Migration.Plan.Order

namespace Migration

/-! The order of the tables as a process that knows nothing but what is out already: time and again
the first table comes out of those that follow only such as are out, or else the first of all that
are left. -/

/-- An edge leads from the table at the one place to the table at the other. Of several tables of
one name it means the first. -/
def Precedes (tables : List PlannedTable) (edges : List Edge) (earlier later : Nat) : Prop :=
  ∃ edge ∈ edges, edge.source ≠ edge.target
    ∧ tables.findIdx? (·.table = edge.source) = some earlier
    ∧ tables.findIdx? (·.table = edge.target) = some later

def Remains (tables : List PlannedTable) (emitted : List Nat) (place : Nat) : Prop :=
  place < tables.length ∧ place ∉ emitted

/-- The table has not come out yet, and all that precede it have. -/
def Free (tables : List PlannedTable) (edges : List Edge) (emitted : List Nat) (place : Nat) :
    Prop :=
  Remains tables emitted place
    ∧ ∀ earlier, Precedes tables edges earlier place → earlier ∈ emitted

def ComesNext (tables : List PlannedTable) (edges : List Edge) (emitted : List Nat)
    (place : Nat) : Prop :=
  IsLeast {place | Free tables edges emitted place} place
    ∨ (∀ other, ¬Free tables edges emitted other)
      ∧ IsLeast {place | Remains tables emitted place} place

/-- Once some tables are out, the rest come out in this order. -/
inductive Emits (tables : List PlannedTable) (edges : List Edge) : List Nat → List Nat → Prop
  | done {emitted : List Nat} (exhausted : ∀ place, ¬Remains tables emitted place) :
      Emits tables edges emitted []
  | next {emitted rest : List Nat} {place : Nat} (isNext : ComesNext tables edges emitted place)
      (continues : Emits tables edges (emitted ++ [place]) rest) :
      Emits tables edges emitted (place :: rest)

variable {tables : List PlannedTable} {edges : List Edge} {emitted : List Nat}

theorem getElem?_of_findIdx? {name : String} {place : Nat}
    (found : tables.findIdx? (·.table = name) = some place) :
    ∃ planned, tables[place]? = some planned ∧ planned.table = name := by
  rcases List.findIdx?_eq_some_iff_getElem.mp found with ⟨inside, named, _⟩
  exact ⟨tables[place], List.getElem?_eq_getElem inside, by simpa using named⟩

theorem Precedes.lt_length {earlier later : Nat} (precedes : Precedes tables edges earlier later) :
    earlier < tables.length ∧ later < tables.length := by
  rcases precedes with ⟨_, _, _, source, target⟩
  exact ⟨(List.findIdx?_eq_some_iff_findIdx_eq.mp source).1,
    (List.findIdx?_eq_some_iff_findIdx_eq.mp target).1⟩

theorem Precedes.ne {earlier later : Nat} (precedes : Precedes tables edges earlier later) :
    earlier ≠ later := by
  rcases precedes with ⟨edge, _, differ, source, target⟩
  rintro rfl
  rcases getElem?_of_findIdx? source with ⟨planned, atPlace, sourceName⟩
  rcases getElem?_of_findIdx? target with ⟨other, atSame, targetName⟩
  rcases Option.some.inj (atPlace.symm.trans atSame) with rfl
  exact differ (sourceName.symm.trans targetName)

/-! ## One step -/

theorem ComesNext.remains {place : Nat} (isNext : ComesNext tables edges emitted place) :
    Remains tables emitted place := by
  rcases isNext with least | ⟨_, least⟩
  · exact least.1.1
  · exact least.1

theorem ComesNext.unique {left right : Nat} (isLeft : ComesNext tables edges emitted left)
    (isRight : ComesNext tables edges emitted right) : left = right := by
  rcases isLeft with leftFree | ⟨stalled, leftFirst⟩
  · rcases isRight with rightFree | ⟨stalled, _⟩
    · exact leftFree.unique rightFree
    · exact absurd leftFree.1 (stalled left)
  · rcases isRight with rightFree | ⟨_, rightFirst⟩
    · exact absurd rightFree.1 (stalled right)
    · exact leftFirst.unique rightFirst

theorem remains_concat {place other : Nat} :
    Remains tables (emitted ++ [place]) other ↔ Remains tables emitted other ∧ other ≠ place := by
  simp only [Remains, List.mem_append, List.mem_singleton, not_or, and_assoc]

/-! ## All steps -/

namespace Emits

/-- The process leaves no choice. -/
theorem unique {left right : List Nat} (isLeft : Emits tables edges emitted left)
    (isRight : Emits tables edges emitted right) : left = right := by
  induction isLeft generalizing right with
  | done exhausted =>
      cases isRight with
      | done _ => rfl
      | next isNext _ => exact absurd isNext.remains (exhausted _)
  | next isNext _ induction =>
      cases isRight with
      | done exhausted => exact absurd isNext.remains (exhausted _)
      | next isOther continues =>
          rcases isNext.unique isOther with rfl
          exact congrArg _ (induction continues)

theorem mem_iff {rest : List Nat} (emits : Emits tables edges emitted rest) {place : Nat} :
    place ∈ rest ↔ Remains tables emitted place := by
  induction emits with
  | done exhausted => exact iff_of_false List.not_mem_nil (exhausted place)
  | next isNext _ induction =>
      rw [List.mem_cons, induction, remains_concat]
      constructor
      · rintro (rfl | remains)
        · exact isNext.remains
        · exact remains.1
      · exact fun remains => or_iff_not_imp_left.mpr fun differs => ⟨remains, differs⟩

theorem nodup {rest : List Nat} (emits : Emits tables edges emitted rest) : rest.Nodup := by
  induction emits with
  | done _ => exact List.nodup_nil
  | next _ continues induction =>
      refine List.nodup_cons.mpr ⟨fun again => ?_, induction⟩
      exact (remains_concat.mp (continues.mem_iff.mp again)).2 rfl

/-- Every table comes out, and none twice. -/
theorem perm_range {order : List Nat} (emits : Emits tables edges [] order) :
    order.Perm (List.range tables.length) := by
  rw [List.perm_ext_iff_of_nodup emits.nodup List.nodup_range]
  intro place
  rw [emits.mem_iff, Remains, List.mem_range]
  exact and_iff_left List.not_mem_nil

theorem comesNext {rest : List Nat} (emits : Emits tables edges emitted rest) {i place : Nat}
    (atI : rest[i]? = some place) : ComesNext tables edges (emitted ++ rest.take i) place := by
  induction emits generalizing i with
  | done _ => simp at atI
  | @next emitted rest first isNext _ induction =>
      cases i with
      | zero =>
          rcases Option.some.inj atI with rfl
          simpa using isNext
      | succ i => simpa using induction atI

/-- What remains after some steps is what comes out by the steps that follow. -/
theorem mem_drop_iff {order : List Nat} (emits : Emits tables edges [] order) {i place : Nat} :
    place ∈ order.drop i ↔ Remains tables (order.take i) place := by
  have whole : place ∈ order.take i ∨ place ∈ order.drop i ↔ Remains tables [] place := by
    rw [← List.mem_append, List.take_append_drop, emits.mem_iff]
  have apart := List.disjoint_take_drop emits.nodup (le_refl i)
  constructor
  · exact fun later => ⟨(whole.mp (.inr later)).1, fun earlier => apart earlier later⟩
  · exact fun remains =>
      (whole.mpr ⟨remains.1, List.not_mem_nil⟩).resolve_left remains.2

end Emits

end Migration
