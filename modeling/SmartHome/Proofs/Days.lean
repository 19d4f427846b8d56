import Mathlib.Algebra.Group.Prod
import SmartHome.Machine.Batches
import SmartHome.Proofs.Export

/-!
# When the rows are the days

The exported rows cannot be read by the columns of their header, the last one
being short. Read from the end they can: in every row the last entry is the
diverted amount, the one before it the boosted amount, and the one before
that the day. What is left is whether the amounts are those of the day.

The loop keeps a batch of readings open as long as the day stays the same,
and adds a reading before it looks at its day: these are the late batches of
the library, with both counters as one amount, starting on day 1.
`Begun.readings` is that observation, by induction on the readings, and
`tells_days_iff` what the library makes of it: the rows are the days exactly
if the month has a reading of its first day to start with, the readings never
go back a day, and every reading that changes the day carries nothing.
-/

namespace SmartHome.Myenergi

open Machine

/-- A row read from its end; the year and the month are those of the
request. -/
def readFromEnd (year month : Int) (row : List Cell) : Option DayRecord := do
  let diverted ← row.reverse[0]?.bind Cell.float?
  let boosted ← row.reverse[1]?.bind Cell.float?
  let day ← row.reverse[2]?.bind Cell.int?
  return ⟨year, month, day, boosted, diverted⟩

def Usage.Tells (u : Usage) (year month : Int) (days : List DayRecord) :
    Prop :=
  u.dataRows.map (readFromEnd year month) = days.map some

def Reading.kWh (r : Reading) : ℚ × ℚ := (r.boosted, r.diverted)

def Usage.daily (u : Usage) : ℚ × ℚ := (u.dailyBoostedKWh, u.dailyDivertedKWh)

def dayRecord (year month : Int) (batch : Int × ℚ × ℚ) : DayRecord :=
  ⟨year, month, batch.1, batch.2.1, batch.2.2⟩

theorem dayRecord_injective (year month : Int) :
    Function.Injective (dayRecord year month) := by
  rintro ⟨day, boosted, diverted⟩ ⟨day', boosted', diverted'⟩ h
  injection h with _ _ hday hboosted hdiverted
  exact Prod.ext hday (Prod.ext hboosted hdiverted)

/-! ## The loop makes late batches -/

section Loop

variable {year month : Int} {u : Usage}

/-- What is in the file so far, and what the readings to come will add: the
batches that are closed from now on. -/
def Usage.outlook (u : Usage) (year month : Int) (readings : List Reading) :
    List (Option DayRecord) :=
  u.dataRows.map (readFromEnd year month) ++
    (lateBatches (·.dom) Reading.kWh u.currentDom u.daily readings).map
      (fun batch => some (dayRecord year month batch))

theorem outlook_addReading (hcolumns : u.exportData = header :: u.dataRows)
    (r : Reading) (rs : List Reading) :
    (u.addReading year month r).outlook year month rs =
      u.outlook year month (r :: rs) := by
  rw [Usage.outlook, Usage.outlook, lateBatches, Usage.addReading]
  dsimp only
  split
  next hday =>
    rw [dataRows_append hcolumns rfl, List.map_append, List.append_assoc]
    rfl
  next hday => rfl

/-- What the rounds of the loop keep: the header, and the last day read as
the current one. -/
structure Begun (u : Usage) : Prop where
  columns : u.exportData = header :: u.dataRows
  last : u.lastDom = u.currentDom

theorem Begun.addReading (h : Begun u) (r : Reading) :
    Begun (({ u with lastDom := r.dom } : Usage).addReading year month r) := by
  rw [Usage.addReading]
  dsimp only
  split
  next hday => exact ⟨columns_append h.columns rfl, rfl⟩
  next hday => exact ⟨h.columns, (not_not.mp hday).symm⟩

theorem readUsage_eq {deviceType : String}
    (hdevice : deviceType = "zappi" ∨ deviceType = "eddi") (r : Reading) :
    u.readUsage year month deviceType r =
      if r.inMonth year month then
        ({ u with lastDom := r.dom } : Usage).addReading year month r
      else u := by
  rw [Usage.readUsage]
  simp only [Reading.inMonth, Bool.and_eq_true, beq_iff_eq]
  rcases hdevice with rfl | rfl
  · rfl
  · rfl

theorem Begun.exportLast (h : Begun u) :
    u.exportLast.dataRows.map (readFromEnd year month) =
      u.outlook year month [] := by
  have hdata : u.exportLast.dataRows = u.dataRows ++ _ :=
    dataRows_append h.columns rfl
  rw [hdata, List.map_append, h.last]
  rfl

theorem Begun.readings (h : Begun u) {deviceType : String}
    (hdevice : deviceType = "zappi" ∨ deviceType = "eddi")
    (usageData : List Reading) :
    (usageData.foldl (Usage.readUsage year month deviceType)
        u).exportLast.dataRows.map (readFromEnd year month) =
      u.outlook year month (monthly year month usageData) := by
  induction usageData generalizing u with
  | nil => exact h.exportLast
  | cons r rs ih =>
      rw [List.foldl_cons, readUsage_eq hdevice, monthly, List.filter_cons]
      split
      next hmonth =>
        -- no batch depends on the last day read
        let v : Usage := { u with lastDom := r.dom }
        have hcolumns : v.exportData = header :: v.dataRows := h.columns
        exact (ih (h.addReading r)).trans (outlook_addReading hcolumns r _)
      next hmonth => exact ih h

end Loop

/-- The rows of a device's file are the late batches of its readings, from
day 1 on. -/
theorem deviceUsage_fromEnd {deviceType : String}
    (hdevice : deviceType = "zappi" ∨ deviceType = "eddi")
    (year month : Int) (usageData : List Reading) :
    (deviceUsage year month deviceType usageData).dataRows.map
        (readFromEnd year month) =
      (lateBatches (·.dom) Reading.kWh 1 0
        (monthly year month usageData)).map
          fun batch => some (dayRecord year month batch) := by
  have hbegun : Begun { exportData := [header] } := ⟨rfl, rfl⟩
  exact hbegun.readings hdevice usageData

/-! ## The days are sums by key -/

theorem sum_kWh (readings : List Reading) :
    (readings.map Reading.kWh).sum =
      ((readings.map fun r => r.h1b.getD 0).sum / 3600000,
        (readings.map fun r => r.h1d.getD 0).sum / 3600000) := by
  rw [← sum_toKWh readings (·.h1b), ← sum_toKWh readings (·.h1d)]
  induction readings with
  | nil => rfl
  | cons r rs ih =>
      rw [List.map_cons, List.sum_cons, ih, List.map_cons, List.map_cons,
        List.sum_cons, List.sum_cons]
      rfl

theorem perDay_eq (year month : Int) (usageData : List Reading) :
    perDay year month usageData =
      (sumsByKey (·.dom) Reading.kWh (monthly year month usageData)).map
        (dayRecord year month) := by
  rw [perDay, sumsByKey, List.map_map]
  refine List.map_congr_left fun dom _ => ?_
  rw [Function.comp_apply, dayRecord, sumOf, sum_kWh]
  simp only [beq_eq_decide]

/-! ## What it takes -/

/-- With the rows read from their end, a device's file tells the days of the
month exactly if the month starts with a reading of its first day, the
readings never go back a day, and no reading that changes the day carries
anything. -/
theorem tells_days_iff {deviceType : String}
    (hdevice : deviceType = "zappi" ∨ deviceType = "eddi")
    (year month : Int) (usageData : List Reading) :
    let readings := monthly year month usageData
    (deviceUsage year month deviceType usageData).Tells year month
        (perDay year month usageData) ↔
      readings.head?.map (·.dom) = some 1 ∧
        (readings.map (·.dom)).Pairwise (· ≤ ·) ∧
        readings.IsChain fun r r' =>
          r.dom ≠ r'.dom → r'.boosted = 0 ∧ r'.diverted = 0 := by
  intro readings
  have hinjective : Function.Injective
      fun batch => some (dayRecord year month batch) :=
    (Option.some_injective _).comp (dayRecord_injective year month)
  have hopens : OpensEmpty (·.dom) Reading.kWh = fun r r' =>
      r.dom ≠ r'.dom → r'.boosted = 0 ∧ r'.diverted = 0 := by
    funext r r'
    rw [OpensEmpty, Reading.kWh, Prod.mk_eq_zero]
  rw [Usage.Tells, deviceUsage_fromEnd hdevice, perDay_eq, List.map_map,
    ← hopens, ← late_eq_sumsByKey_iff]
  exact List.map_inj_right fun _ _ h => hinjective h

/-- The second day opens with an empty reading. -/
theorem tells_days_iff_empty_opening :
    (deviceUsage 2023 7 "eddi"
      [⟨2023, 6, 30, some 1, some 1⟩, ⟨2023, 7, 1, some 3600000, none⟩,
        ⟨2023, 7, 2, some 0, none⟩,
        ⟨2023, 7, 2, some 7200000, some 1800000⟩]).Tells 2023 7
      (perDay 2023 7
        [⟨2023, 6, 30, some 1, some 1⟩, ⟨2023, 7, 1, some 3600000, none⟩,
          ⟨2023, 7, 2, some 0, none⟩,
          ⟨2023, 7, 2, some 7200000, some 1800000⟩]) := by
  refine (tells_days_iff (Or.inr rfl) 2023 7 _).mpr ⟨rfl, by decide, ?_⟩
  have hempty : Reading.boosted ⟨2023, 7, 2, some 0, none⟩ = 0 :=
    zero_div _
  refine List.isChain_cons_cons.mpr ⟨fun _ => ⟨hempty, rfl⟩, ?_⟩
  refine List.isChain_cons_cons.mpr ⟨fun hsame => absurd rfl hsame, ?_⟩
  exact List.isChain_singleton _

end SmartHome.Myenergi
