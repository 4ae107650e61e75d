import Migration.Proofs.Plan.Precedence
import Migration.Proofs.Timestamp.Sorting
import Migration.Revision

namespace Migration

/-! Migrations are run in the order of their file names. That is the order in which they are
created: each is stamped a second after the one before it, and a later stamp makes a greater name
as long as years are written with four digits. -/

/-- The migrations are stamped a second apart from the first on, through minutes, days and years,
and both their stamps and their files are sorted as they stand. -/
structure InCreationOrder (base : Timestamp) (stamps : List Timestamp) (stems : List String) :
    Prop where
  stamped (place : Nat) (within : place < stamps.length) : stamps[place] = base.plusSeconds place
  carried : stamps.IsChain Timestamp.IsNextSecond
  texts_distinct : (stamps.map Timestamp.text).Nodup
  texts_sorted : ((stamps.map Timestamp.text).map Text.bytes).Pairwise (· < ·)
  stems_distinct : stems.Nodup
  stems_sorted : (stems.map Text.bytes).Pairwise (· < ·)

theorem Timestamp.hasFourDigits_plusSeconds {base : Timestamp} {seconds place : Nat}
    (fits : base.WithinFourDigits seconds) (within : place ≤ seconds) :
    (base.plusSeconds place).HasFourDigits := by
  have ⟨start, last⟩ := fits
  have yearFits := Int.le_trans (base.yearAfter_le within) last
  have ⟨day, _, _⟩ := plusSeconds_of_yearAfter_le yearFits
  have year : (base.plusSeconds place).date.year = base.yearAfter place := by
    rw [date, day, yearAfter]
  have startYear : base.yearAfter 0 = base.date.year := by
    have second := base.second_lt
    rw [yearAfter, date]
    congr
    omega
  have later := base.yearAfter_le (Nat.zero_le place)
  rw [HasFourDigits, year]
  omega

/-- What follows the stamps in the names of the files does not count. -/
theorem inCreationOrder_of_endings {α : Type} {base : Timestamp} (migrations : List α)
    (ending : α → String) (fits : base.WithinFourDigits migrations.length) :
    InCreationOrder base (migrations.zipIdx.map fun entry => base.plusSeconds entry.2)
      (migrations.zipIdx.map fun entry =>
        (base.plusSeconds entry.2).text ++ ending entry.1) := by
  have sorted {first second : Nat} (less : first < second) (within : second < migrations.length)
      (firstEnding secondEnding : String) :
      Text.bytes ((base.plusSeconds first).text ++ firstEnding) <
        Text.bytes ((base.plusSeconds second).text ++ secondEnding) := by
    have yearFits := Int.le_trans (base.yearAfter_le (Nat.le_of_lt within)) fits.2
    exact Timestamp.bytes_text_append_lt
      (Timestamp.hasFourDigits_plusSeconds fits (by omega))
      (Timestamp.hasFourDigits_plusSeconds fits (by omega))
      (Timestamp.plusSeconds_before less yearFits) firstEnding secondEnding
  have distinct {texts : List String} (less : (texts.map Text.bytes).Pairwise (· < ·)) :
      texts.Nodup := by
    refine (List.pairwise_map.mp less).imp fun {first second} less => ?_
    rintro rfl
    exact List.lt_irrefl _ less
  have texts_sorted : (((migrations.zipIdx.map fun entry =>
      base.plusSeconds entry.2).map Timestamp.text).map Text.bytes).Pairwise (· < ·) := by
    refine List.pairwise_iff_getElem.mpr fun first second _ within less => ?_
    simp only [List.length_map, List.length_zipIdx] at within
    simpa using sorted less within "" ""
  have stems_sorted : ((migrations.zipIdx.map fun entry =>
      (base.plusSeconds entry.2).text ++ ending entry.1).map Text.bytes).Pairwise (· < ·) := by
    refine List.pairwise_iff_getElem.mpr fun first second _ within less => ?_
    simp only [List.length_map, List.length_zipIdx] at within
    simpa using sorted less within _ _
  constructor
  case stamped => simp
  case carried =>
    refine List.isChain_iff_getElem.mpr fun place within => ?_
    simp only [List.length_map, List.length_zipIdx] at within
    have yearFits := Int.le_trans (base.yearAfter_le (Nat.le_of_lt within)) fits.2
    simpa using Timestamp.isNextSecond_plusSeconds yearFits
  case texts_distinct => exact distinct texts_sorted
  case texts_sorted => exact texts_sorted
  case stems_distinct => exact distinct stems_sorted
  case stems_sorted => exact stems_sorted

/-- The tables of a plan and the revisions of a change set are files in the order of their
creation, whatever the schema. -/
theorem Schema.inCreationOrder (schema : Schema) (settings : Settings) (set : ChangeSet)
    (now : Timestamp) :
    let base := settings.baseTimestamp.getD now
    let plan := schema.plan settings now
    let revisions := schema.revisions settings set now
    (base.WithinFourDigits plan.tables.length →
        InCreationOrder base (plan.tables.map (·.timestamp)) plan.fileStems)
      ∧ (base.WithinFourDigits revisions.length →
          InCreationOrder base (revisions.map (·.timestamp)) (revisions.map (·.fileStem))) := by
  intro base plan revisions
  let context := Context.ofSettings schema settings
  constructor
  · intro fits
    let planned := arranged context.plannedTables
    have tables : plan.tables =
        planned.zipIdx.map fun entry => .stamp base entry.1 entry.2 := context.plan_tables base
    rw [tables, List.length_map, List.length_zipIdx] at fits
    have ordered := inCreationOrder_of_endings planned
      (fun planned => "_create_" ++ planned.table ++ "_table") fits
    have stamps : plan.tables.map (·.timestamp) =
        planned.zipIdx.map fun entry => base.plusSeconds entry.2 := by
      simp [tables, OrderedTable.stamp]
    have stems : plan.fileStems = planned.zipIdx.map fun entry =>
        (base.plusSeconds entry.2).text ++ ("_create_" ++ entry.1.table ++ "_table") := by
      simp [Plan.fileStems, tables, OrderedTable.stamp, OrderedTable.fileStem, String.append_assoc]
    rw [stamps, stems]
    exact ordered
  · intro fits
    let deltas := context.updates set.changes ++ context.drops set.removed
    let stamped (entry : (String × RevisionKind × Delta) × Nat) : Revision :=
      { entity := entry.1.1, kind := entry.1.2.1, delta := entry.1.2.2,
        timestamp := base.plusSeconds entry.2 }
    have revised : revisions = deltas.zipIdx.map stamped := rfl
    rw [revised, List.length_map, List.length_zipIdx] at fits
    have ordered := inCreationOrder_of_endings deltas
      (fun made => "_" ++ made.2.1.name ++ "_" ++ made.2.2.table ++ "_table") fits
    have stamps : revisions.map (·.timestamp) =
        deltas.zipIdx.map fun entry => base.plusSeconds entry.2 := by
      simp [revised, stamped]
    have stems : revisions.map (·.fileStem) = deltas.zipIdx.map fun entry =>
        (base.plusSeconds entry.2).text
          ++ ("_" ++ entry.1.2.1.name ++ "_" ++ entry.1.2.2.table ++ "_table") := by
      simp [revised, stamped, Revision.fileStem, Revision.table, String.append_assoc]
    rw [stamps, stems]
    exact ordered

/-- The last second of the year 2024 is a leap second here. -/
def leapYearEnd : Timestamp :=
  ⟨Calendar.Date.dayNumber ⟨2024, 12, 31⟩, 86399, true, by decide, by decide, by decide⟩

def storeSchema : Schema :=
  { entities := [("Order", { name := "Order" }), ("Item", { name := "Item" })] }

/-- Two entities have been taken out of the schema. -/
def storeChanges : ChangeSet :=
  { changes := [], removed := [{ name := "Basket" }, { name := "Voucher" }] }

theorem storeSchema_inCreationOrder :
    let settings : Settings := { baseTimestamp := some leapYearEnd }
    let plan := storeSchema.plan settings .unixEpoch
    let revisions := storeSchema.revisions settings storeChanges .unixEpoch
    plan.fileStems = ["2024_12_31_235960_create_orders_table",
        "2025_01_01_000000_create_items_table"]
      ∧ InCreationOrder leapYearEnd (plan.tables.map (·.timestamp)) plan.fileStems
      ∧ revisions.map (·.fileStem) = ["2024_12_31_235960_drop_baskets_table",
        "2025_01_01_000000_drop_vouchers_table"]
      ∧ InCreationOrder leapYearEnd (revisions.map (·.timestamp))
          (revisions.map (·.fileStem)) := by
  have ordered := storeSchema.inCreationOrder { baseTimestamp := some leapYearEnd } storeChanges
    .unixEpoch
  exact ⟨by decide +kernel, ordered.1 (by decide +kernel), by decide +kernel,
    ordered.2 (by decide +kernel)⟩

end Migration
