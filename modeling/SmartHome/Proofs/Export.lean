import Mathlib.Algebra.BigOperators.Ring.List
import Mathlib.Algebra.Order.Ring.Rat
import Mathlib.Data.List.Dedup
import Mathlib.Data.List.Sort
import Mathlib.Tactic.NormNum.Basic
import SmartHome.Machine.Ledger
import SmartHome.Myenergi.Fetch

/-!
# What the exported rows say

Two questions about a device's CSV file. Nothing is lost: the amounts of the
rows, the last one included, add up to the totals that are printed, and those
to what was read for the month. The daily and the total amounts of a counter
are a ledger, and exporting a row closes it, so this is the ledger's theorem
read off once for each counter, whatever the order of the readings.

Whether the rows say what their header promises is another matter. A row is
to be read by the header's five columns as one day's amounts. The last row
has three entries, so under the header the day stands in the year's column
and the amounts in those of the month and the day; a file can never be read.
`booked_on_the_day_before` shows the other slip, in the rows that are
complete: the reading that changes the day is added before the row of the
old day is exported.
-/

namespace SmartHome.Myenergi

open Machine

def Reading.inMonth (year month : Int) (r : Reading) : Bool :=
  r.mon == month && r.yr == year

/-- The readings of the requested month, in the order they came. -/
def monthly (year month : Int) (usageData : List Reading) : List Reading :=
  usageData.filter (Reading.inMonth year month)

def Usage.dataRows (u : Usage) : List (List Cell) := u.exportData.tail

def Cell.int? : Cell → Option Int
  | .int n => some n
  | _ => none

def Cell.float? : Cell → Option ℚ
  | .float x => some x
  | _ => none

section Rows

variable {u u' : Usage} {row : List Cell}

theorem dataRows_append (hcolumns : u.exportData = header :: u.dataRows)
    (hrow : u'.exportData = u.exportData ++ [row]) :
    u'.dataRows = u.dataRows ++ [row] := by
  rw [Usage.dataRows, hrow, hcolumns]
  rfl

theorem columns_append (hcolumns : u.exportData = header :: u.dataRows)
    (hrow : u'.exportData = u.exportData ++ [row]) :
    u'.exportData = header :: u'.dataRows := by
  rw [dataRows_append hcolumns hrow, hrow]
  exact congrArg (· ++ [row]) hcolumns

end Rows

/-! ## The accounts -/

/-- The two counters, each with an amount of a reading, a running account
and a total, and an entry in a row, counted from its end. -/
inductive Counter where
  | boosted
  | diverted

namespace Counter

def amount : Counter → Reading → ℚ
  | .boosted, r => r.boosted
  | .diverted, r => r.diverted

def daily : Counter → Usage → ℚ
  | .boosted, u => u.dailyBoostedKWh
  | .diverted, u => u.dailyDivertedKWh

def total : Counter → Usage → ℚ
  | .boosted, u => u.totalBoostedKWh
  | .diverted, u => u.totalDivertedKWh

/-- The second-last entry of a row, or its last. -/
def entry : Counter → List Cell → Option ℚ
  | .boosted, row => row.reverse[1]?.bind Cell.float?
  | .diverted, row => row.reverse[0]?.bind Cell.float?

/-- The counter's ledger, as the variables hold it. -/
structure Keeps (c : Counter) (u : Usage) (l : Ledger ℚ) : Prop where
  columns : u.exportData = header :: u.dataRows
  written : u.dataRows.map c.entry = l.written.map some
  running : c.daily u = l.running
  total : c.total u = l.total

/-- The counter's account is in order with regard to some postings. -/
def Books (c : Counter) (u : Usage) (postings : List ℚ) : Prop :=
  ∃ l, c.Keeps u l ∧ l.Accounts postings

end Counter

section Accounts

variable {c : Counter} {u : Usage} {l : Ledger ℚ} {postings : List ℚ}

theorem books_start (c : Counter) :
    c.Books { exportData := [header] } [] := by
  refine ⟨.opened, ?_, Ledger.accounts_opened⟩
  cases c <;> exact ⟨rfl, rfl, rfl, rfl⟩

theorem Counter.Keeps.append (h : c.Keeps u l) {u' : Usage} {row : List Cell}
    (hentry : c.entry row = some (c.daily u))
    (hrow : u'.exportData = u.exportData ++ [row]) :
    u'.dataRows.map c.entry = l.close.written.map some := by
  rw [dataRows_append h.columns hrow, List.map_append, h.written,
    List.map_singleton, hentry, h.running, Ledger.close, List.map_append,
    List.map_singleton]

theorem Counter.Keeps.post (h : c.Keeps u l) (r : Reading) :
    c.Keeps
      { u with
        totalDivertedKWh := u.totalDivertedKWh + r.diverted
        totalBoostedKWh := u.totalBoostedKWh + r.boosted
        dailyDivertedKWh := u.dailyDivertedKWh + r.diverted
        dailyBoostedKWh := u.dailyBoostedKWh + r.boosted }
      (l.post (c.amount r)) := by
  refine ⟨h.columns, h.written, ?_, ?_⟩
  · show _ = l.running + c.amount r
    rw [← h.running]
    cases c <;> rfl
  · show _ = l.total + c.amount r
    rw [← h.total]
    cases c <;> rfl

theorem Counter.Keeps.close (h : c.Keeps u l) (year month dom : Int) :
    c.Keeps
      { u with
        exportData := u.exportData ++
          [[.int year, .int month, .int u.currentDom,
            .float u.dailyBoostedKWh, .float u.dailyDivertedKWh]]
        currentDom := dom
        dailyBoostedKWh := 0
        dailyDivertedKWh := 0 }
      l.close := by
  have hentry : c.entry [.int year, .int month, .int u.currentDom,
      .float u.dailyBoostedKWh, .float u.dailyDivertedKWh] =
        some (c.daily u) := by
    cases c <;> rfl
  refine ⟨columns_append h.columns rfl, h.append hentry rfl, ?_, ?_⟩
  · cases c <;> rfl
  · exact (show _ = c.total u by cases c <;> rfl).trans h.total

theorem Counter.Books.addReading (h : c.Books u postings)
    (year month : Int) (r : Reading) :
    c.Books (u.addReading year month r) (postings ++ [c.amount r]) := by
  obtain ⟨l, hkeeps, haccounts⟩ := h
  have hposted := hkeeps.post r
  have haccounts' := haccounts.post (c.amount r)
  rw [Usage.addReading]
  dsimp only
  split
  next => exact ⟨_, hposted.close year month r.dom, haccounts'.close⟩
  next => exact ⟨_, hposted, haccounts'⟩

theorem Counter.Books.readUsage (h : c.Books u postings)
    {deviceType : String} (hdevice : deviceType = "zappi" ∨ deviceType = "eddi")
    (year month : Int) (r : Reading) :
    c.Books (u.readUsage year month deviceType r)
      (postings ++ (monthly year month [r]).map c.amount) := by
  have hadd : c.Books { u with lastDom := r.dom } postings := by
    obtain ⟨l, hkeeps, haccounts⟩ := h
    refine ⟨l, ⟨hkeeps.columns, hkeeps.written, ?_, ?_⟩, haccounts⟩
    · cases c <;> exact hkeeps.running
    · cases c <;> exact hkeeps.total
  rw [Usage.readUsage, monthly]
  split
  next hmonth =>
    rw [List.filter_cons_of_pos (by simp [Reading.inMonth, hmonth])]
    rcases hdevice with rfl | rfl
    · exact hadd.addReading year month r
    · exact hadd.addReading year month r
  next hmonth =>
    rw [List.filter_cons_of_neg (by simpa [Reading.inMonth] using hmonth)]
    rw [List.filter_nil, List.map_nil, List.append_nil]
    exact h

theorem Counter.Books.readings (h : c.Books u postings)
    {deviceType : String} (hdevice : deviceType = "zappi" ∨ deviceType = "eddi")
    (year month : Int) (usageData : List Reading) :
    c.Books (usageData.foldl (Usage.readUsage year month deviceType) u)
      (postings ++ (monthly year month usageData).map c.amount) := by
  induction usageData generalizing u postings with
  | nil =>
      rw [monthly, List.filter_nil, List.map_nil, List.append_nil]
      exact h
  | cons r rs ih =>
      have hsplit : monthly year month (r :: rs) =
          monthly year month [r] ++ monthly year month rs :=
        List.filter_append [r] rs
      rw [List.foldl_cons, hsplit, List.map_append, ← List.append_assoc]
      exact ih (h.readUsage hdevice year month r)

theorem Counter.Books.exportLast (h : c.Books u postings) :
    (∃ amounts : List ℚ, u.exportLast.dataRows.map c.entry =
        amounts.map some ∧ amounts.sum = c.total u.exportLast) ∧
      c.total u.exportLast = postings.sum := by
  obtain ⟨l, hkeeps, haccounts⟩ := h
  have hentry : c.entry [.int u.lastDom, .float u.dailyBoostedKWh,
      .float u.dailyDivertedKWh] = some (c.daily u) := by
    cases c <;> rfl
  have htotal : c.total u.exportLast = l.total := by
    rw [← hkeeps.total]
    cases c <;> rfl
  rw [htotal]
  exact ⟨⟨l.close.written, hkeeps.append hentry rfl, haccounts.closed⟩,
    haccounts.total⟩

/-- The rows of a device's file carry the counter's total, and that is what
was read. -/
theorem Counter.deviceUsage_total (c : Counter) {deviceType : String}
    (hdevice : deviceType = "zappi" ∨ deviceType = "eddi")
    (year month : Int) (usageData : List Reading) :
    let u := deviceUsage year month deviceType usageData
    (∃ amounts : List ℚ, u.dataRows.map c.entry = amounts.map some ∧
        amounts.sum = c.total u) ∧
      c.total u = ((monthly year month usageData).map c.amount).sum :=
  ((books_start c).readings hdevice year month usageData).exportLast

end Accounts

/-- The amounts of some readings, converted one by one or all together. -/
theorem sum_toKWh (readings : List Reading) (key : Reading → Option ℚ) :
    (readings.map fun r => toKWh (key r)).sum =
      (readings.map fun r => (key r).getD 0).sum / 3600000 := by
  have hone : ∀ ws, toKWh ws = ws.getD 0 / 3600000 := by
    intro ws
    have hunit : wsToKWh = 3600000 := by
      rw [wsToKWh]
      norm_num
    cases ws with
    | none => rw [toKWh, Option.getD_none, zero_div]
    | some ws => rw [toKWh, hunit, Option.getD_some]
  simp only [hone, div_eq_mul_inv, List.sum_map_mul_right]

/-! ## The days -/

/-- What stands in the rows for the day: the third entry, and in the last
row the first. -/
def Usage.dayEntries (u : Usage) : List (Option Cell) :=
  u.dataRows.dropLast.map (·[2]?) ++
    (u.dataRows.getLast?.map (·[0]?)).toList

/-- The exported days increase, and none has come to the current one. -/
structure Dated (u : Usage) : Prop where
  columns : u.exportData = header :: u.dataRows
  last : u.lastDom = u.currentDom
  days : ∃ days : List Int,
    u.dataRows.map (·[2]?) = days.map (fun d => some (.int d)) ∧
      days.Pairwise (· < ·) ∧ ∀ d ∈ days, d < u.currentDom

theorem Dated.addReading {u : Usage} (h : Dated u) (year month : Int)
    {r : Reading} (hr : u.currentDom ≤ r.dom) :
    Dated (({ u with lastDom := r.dom } : Usage).addReading year month r) ∧
      (({ u with lastDom := r.dom } : Usage).addReading year month
        r).currentDom = r.dom := by
  obtain ⟨hcolumns, hlast, days, hrows, hsorted, hbelow⟩ := h
  rw [Usage.addReading]
  dsimp only
  split
  next hday =>
    have hlt : u.currentDom < r.dom := lt_of_le_of_ne hr hday
    refine ⟨⟨columns_append hcolumns rfl, rfl, days ++ [u.currentDom], ?_, ?_,
      ?_⟩, rfl⟩
    · rw [dataRows_append hcolumns rfl, List.map_append, hrows,
        List.map_append]
      rfl
    · refine List.pairwise_append.mpr
        ⟨hsorted, List.pairwise_singleton _ _, fun d hd d' hd' => ?_⟩
      rw [List.mem_singleton.mp hd']
      exact hbelow d hd
    · intro d hd
      rcases List.mem_append.mp hd with hd | hd
      · exact lt_trans (hbelow d hd) hlt
      · rw [List.mem_singleton.mp hd]
        exact hlt
  next hday =>
    have heq : u.currentDom = r.dom := not_not.mp hday
    exact ⟨⟨hcolumns, heq.symm, days, hrows, hsorted, hbelow⟩, heq⟩

theorem Dated.readings {u : Usage} (h : Dated u) {deviceType : String}
    (hdevice : deviceType = "zappi" ∨ deviceType = "eddi")
    {year month : Int} {usageData : List Reading}
    (hdoms : (u.currentDom ::
      (monthly year month usageData).map (·.dom)).Pairwise (· ≤ ·)) :
    Dated (usageData.foldl (Usage.readUsage year month deviceType) u) := by
  induction usageData generalizing u with
  | nil => exact h
  | cons r rs ih =>
      rw [List.foldl_cons, Usage.readUsage]
      rw [monthly] at hdoms
      split
      next hmonth =>
        rw [List.filter_cons_of_pos (by simp [Reading.inMonth, hmonth]),
          List.map_cons, List.pairwise_cons] at hdoms
        obtain ⟨hle, hdoms⟩ := hdoms
        obtain ⟨hdated, hdom⟩ :=
          h.addReading year month (hle r.dom List.mem_cons_self)
        rcases hdevice with rfl | rfl
        · exact ih hdated (hdom.symm ▸ hdoms)
        · exact ih hdated (hdom.symm ▸ hdoms)
      next hmonth =>
        rw [List.filter_cons_of_neg
          (by simpa [Reading.inMonth] using hmonth)] at hdoms
        exact ih h hdoms

theorem Dated.exportLast {u : Usage} (h : Dated u) :
    ∃ days : List Int,
      u.exportLast.dayEntries = days.map (fun d => some (.int d)) ∧
        days.Pairwise (· < ·) := by
  obtain ⟨hcolumns, hlast, days, hrows, hsorted, hbelow⟩ := h
  refine ⟨days ++ [u.lastDom], ?_, ?_⟩
  · have hdata : u.exportLast.dataRows = u.dataRows ++ _ :=
      dataRows_append hcolumns rfl
    rw [Usage.dayEntries, hdata, List.dropLast_concat, List.getLast?_concat,
      hrows, List.map_append]
    rfl
  · refine List.pairwise_append.mpr
      ⟨hsorted, List.pairwise_singleton _ _, fun d hd d' hd' => ?_⟩
    rw [List.mem_singleton.mp hd', hlast]
    exact hbelow d hd

/-- The days of a file increase if those of the readings never go back. -/
theorem deviceUsage_days {deviceType : String}
    (hdevice : deviceType = "zappi" ∨ deviceType = "eddi")
    {year month : Int} {usageData : List Reading}
    (hdoms : ((monthly year month usageData).map (·.dom)).Pairwise (· ≤ ·))
    (hfirst : ∀ r ∈ monthly year month usageData, 1 ≤ r.dom) :
    ∃ days : List Int,
      (deviceUsage year month deviceType usageData).dayEntries =
          days.map (fun d => some (.int d)) ∧
        days.Pairwise (· < ·) := by
  have hstart : Dated { exportData := [header] } :=
    ⟨rfl, rfl, [], rfl, List.Pairwise.nil, by simp⟩
  refine (hstart.readings hdevice ?_).exportLast
  exact List.pairwise_cons.mpr ⟨by simpa using hfirst, hdoms⟩

/-! ## Nothing is lost -/

/-- The rows of a device's file add up to the totals, and the totals to the
readings of the month; and if the readings come in the order of the days, so
do the rows. -/
theorem energy_kept {deviceType : String}
    (hdevice : deviceType = "zappi" ∨ deviceType = "eddi")
    (year month : Int) (usageData : List Reading) :
    let u := deviceUsage year month deviceType usageData
    let readings := monthly year month usageData
    (∃ amounts : List ℚ,
        u.dataRows.map Counter.boosted.entry = amounts.map some ∧
          amounts.sum = u.totalBoostedKWh) ∧
      u.totalBoostedKWh =
        (readings.map fun r => r.h1b.getD 0).sum / 3600000 ∧
      (∃ amounts : List ℚ,
        u.dataRows.map Counter.diverted.entry = amounts.map some ∧
          amounts.sum = u.totalDivertedKWh) ∧
      u.totalDivertedKWh =
        (readings.map fun r => r.h1d.getD 0).sum / 3600000 ∧
      ((readings.map (·.dom)).Pairwise (· ≤ ·) → (∀ r ∈ readings, 1 ≤ r.dom) →
        ∃ days : List Int,
          u.dayEntries = days.map (fun d => some (.int d)) ∧
            days.Pairwise (· < ·)) := by
  obtain ⟨hboosted, hboosted'⟩ :=
    Counter.boosted.deviceUsage_total hdevice year month usageData
  obtain ⟨hdiverted, hdiverted'⟩ :=
    Counter.diverted.deviceUsage_total hdevice year month usageData
  refine ⟨hboosted, hboosted'.trans ?_, hdiverted, hdiverted'.trans ?_,
    deviceUsage_days hdevice⟩
  · exact sum_toKWh _ (·.h1b)
  · exact sum_toKWh _ (·.h1d)

theorem energy_kept_two_days :
    let u := deviceUsage 2023 7 "eddi"
      [⟨2023, 7, 2, some 3600000, none⟩, ⟨2023, 6, 30, some 1, some 1⟩,
        ⟨2023, 7, 2, none, some 1800000⟩, ⟨2023, 7, 5, some 7200000, none⟩]
    u.totalBoostedKWh = (3600000 + (0 + (7200000 + 0))) / 3600000 ∧
      ∃ days : List Int,
        u.dayEntries = days.map (fun d => some (.int d)) ∧
          days.Pairwise (· < ·) := by
  have hkept := energy_kept (Or.inr rfl) 2023 7
    [⟨2023, 7, 2, some 3600000, none⟩, ⟨2023, 6, 30, some 1, some 1⟩,
      ⟨2023, 7, 2, none, some 1800000⟩, ⟨2023, 7, 5, some 7200000, none⟩]
  exact ⟨hkept.2.1, hkept.2.2.2.2 (by decide) (by decide)⟩

/-! ## The rows as days -/

/-- What a row is to say. -/
structure DayRecord where
  year : Int
  month : Int
  day : Int
  boosted : ℚ
  diverted : ℚ
deriving DecidableEq

/-- A row read by the names of its columns. -/
def readRow (columns row : List Cell) : Option DayRecord := do
  let column (name : String) := row[columns.idxOf (.text name)]?
  let year ← (column "Year").bind Cell.int?
  let month ← (column "Month").bind Cell.int?
  let day ← (column "Day").bind Cell.int?
  let boosted ← (column "Boosted kWh").bind Cell.float?
  let diverted ← (column "Diverted kWh").bind Cell.float?
  return ⟨year, month, day, boosted, diverted⟩

/-- The days of the month that have a reading, each with its amounts. -/
def perDay (year month : Int) (usageData : List Reading) : List DayRecord :=
  let readings := monthly year month usageData
  ((readings.map (·.dom)).dedup.insertionSort (· ≤ ·)).map fun dom =>
    let onDay := readings.filter (·.dom == dom)
    { year, month
      day := dom
      boosted := (onDay.map fun r => r.h1b.getD 0).sum / 3600000
      diverted := (onDay.map fun r => r.h1d.getD 0).sum / 3600000 }

/-- The data rows, read by the columns of the header, are the given days. -/
def Usage.Reads (u : Usage) (days : List DayRecord) : Prop :=
  ∃ columns, u.exportData = columns :: u.dataRows ∧
    u.dataRows.map (readRow columns) = days.map some

theorem readUsage_exportData (year month : Int) (deviceType : String)
    (u : Usage) (r : Reading) :
    ∃ rows, (u.readUsage year month deviceType r).exportData =
      u.exportData ++ rows := by
  have hadd : ∀ v : Usage, v.exportData = u.exportData →
      ∃ rows, (v.addReading year month r).exportData =
        u.exportData ++ rows := by
    intro v hv
    rw [Usage.addReading, ← hv]
    dsimp only
    split
    · exact ⟨_, rfl⟩
    · exact ⟨[], (List.append_nil _).symm⟩
  rw [Usage.readUsage]
  dsimp only
  split
  next =>
    split
    · exact hadd _ rfl
    · split
      · exact hadd _ rfl
      · exact ⟨[], (List.append_nil _).symm⟩
  next => exact ⟨[], (List.append_nil _).symm⟩

theorem readings_exportData (year month : Int) (deviceType : String)
    (u : Usage) (usageData : List Reading) :
    ∃ rows,
      (usageData.foldl (Usage.readUsage year month deviceType) u).exportData =
        u.exportData ++ rows := by
  induction usageData generalizing u with
  | nil => exact ⟨[], (List.append_nil _).symm⟩
  | cons r rs ih =>
      obtain ⟨rows, hrows⟩ := readUsage_exportData year month deviceType u r
      obtain ⟨rows', hrows'⟩ := ih (u.readUsage year month deviceType r)
      refine ⟨rows ++ rows', ?_⟩
      rw [List.foldl_cons, hrows', hrows, List.append_assoc]

/-- Every file has the header for its first row and ends in the short one. -/
theorem deviceUsage_exportData (year month : Int) (deviceType : String)
    (usageData : List Reading) :
    ∃ rows dom boosted diverted,
      (deviceUsage year month deviceType usageData).exportData =
        header :: (rows ++ [[.int dom, .float boosted, .float diverted]]) := by
  obtain ⟨rows, hrows⟩ := readings_exportData year month deviceType
    { exportData := [header] } usageData
  let u := usageData.foldl (Usage.readUsage year month deviceType)
    { exportData := [header] }
  refine ⟨rows, u.lastDom, u.dailyBoostedKWh, u.dailyDivertedKWh, ?_⟩
  rw [deviceUsage, Usage.exportLast, hrows]
  rfl

theorem readRow_last (dom : Int) (boosted diverted : ℚ) :
    readRow header [.int dom, .float boosted, .float diverted] = none := rfl

theorem not_reads_of_last {u : Usage} {rows : List (List Cell)} {dom : Int}
    {boosted diverted : ℚ}
    (hdata : u.exportData =
      header :: (rows ++ [[.int dom, .float boosted, .float diverted]]))
    (days : List DayRecord) : ¬ u.Reads days := by
  intro hsome
  obtain ⟨columns, hcolumns, hread⟩ := hsome
  rw [Usage.dataRows, hdata] at hcolumns hread
  obtain ⟨rfl, -⟩ := List.cons.inj hcolumns
  rw [List.tail_cons, List.map_append, List.map_singleton,
    readRow_last] at hread
  have hnone : none ∈ days.map some := by
    rw [← hread]
    exact List.mem_append_right _ (List.mem_singleton_self _)
  obtain ⟨_, -, hsome⟩ := List.mem_map.mp hnone
  cases hsome

/-- No file can be read as the days of its month. -/
theorem never_reads_per_day (year month : Int) (deviceType : String)
    (usageData : List Reading) :
    ¬ (deviceUsage year month deviceType usageData).Reads
      (perDay year month usageData) := by
  obtain ⟨rows, dom, boosted, diverted, hdata⟩ :=
    deviceUsage_exportData year month deviceType usageData
  exact not_reads_of_last hdata _

/-- Two readings, on the first and the second of the month. The second day's
amount is in the row of the first, and the last row is the short one. -/
theorem booked_on_the_day_before :
    let usageData : List Reading :=
      [⟨2023, 7, 1, some 3600000, none⟩, ⟨2023, 7, 2, some 3600000, none⟩]
    (deviceUsage 2023 7 "zappi" usageData).exportData =
        [header, [.int 2023, .int 7, .int 1, .float 2, .float 0],
          [.int 2, .float 0, .float 0]] ∧
      perDay 2023 7 usageData = [⟨2023, 7, 1, 1, 0⟩, ⟨2023, 7, 2, 1, 0⟩] ∧
      ¬ (deviceUsage 2023 7 "zappi" usageData).Reads
        (perDay 2023 7 usageData) := by
  have hdata : (deviceUsage 2023 7 "zappi"
      [⟨2023, 7, 1, some 3600000, none⟩,
        ⟨2023, 7, 2, some 3600000, none⟩]).exportData =
      header :: ([[.int 2023, .int 7, .int 1, .float 2, .float 0]] ++
        [[.int 2, .float 0, .float 0]]) := by
    decide +kernel
  exact ⟨hdata, by decide +kernel, not_reads_of_last hdata _⟩

end SmartHome.Myenergi
