import Mathlib.Data.Rat.Defs

/-!
# The usage download

What `fetch.py` makes of one device's readings. The service answers with a
list of readings; the script walks over them once, adds the ones of the
requested month to a daily and a total account, exports a row whenever the
day changes and a last one at the end, and writes the rows to a CSV file
under a header.

A reading is a JSON object with an optional amount for each of the two
counters, in watt seconds, and the amounts are exact rationals. The two
branches of the loop, for the zappi and the eddi, do the same with variables
of different names, so they are one definition here. The same loop over JSON
of any kind and in floating point is in `Script`.
-/

namespace SmartHome.Myenergi

/-- `ws_to_kWh`. -/
def wsToKWh : ℚ := 60 * 60 * 1000

structure Reading where
  yr : Int
  mon : Int
  dom : Int
  h1b : Option ℚ := none
  h1d : Option ℚ := none
deriving DecidableEq

/-- What a list that is exported as a CSV row may hold. -/
inductive Cell where
  | text (s : String)
  | int (n : Int)
  | float (x : ℚ)
deriving DecidableEq

/-- The variables of the reading loop. -/
structure Usage where
  totalDivertedKWh : ℚ := 0
  totalBoostedKWh : ℚ := 0
  dailyDivertedKWh : ℚ := 0
  dailyBoostedKWh : ℚ := 0
  exportData : List (List Cell)
  currentDom : Int := 1
  lastDom : Int := 1

def header : List Cell :=
  [.text "Year", .text "Month", .text "Day", .text "Boosted kWh",
    .text "Diverted kWh"]

/-- `_reading[key] / ws_to_kWh`, or 0 if the reading has no such key. -/
def toKWh (ws : Option ℚ) : ℚ :=
  match ws with
  | some ws => ws / wsToKWh
  | none => 0

/-- `phase_1_boosted`, or `heater_1_boosted`. -/
def Reading.boosted (r : Reading) : ℚ := toKWh r.h1b

/-- `phase_1_diverted`, or `heater_1_diverted`. -/
def Reading.diverted (r : Reading) : ℚ := toKWh r.h1d

namespace Usage

/-- The body of a device's branch. The reading that changes the day is
already in the daily amounts when they are exported. -/
def addReading (year month : Int) (u : Usage) (r : Reading) : Usage :=
  let u := { u with
    totalDivertedKWh := u.totalDivertedKWh + r.diverted
    totalBoostedKWh := u.totalBoostedKWh + r.boosted
    dailyDivertedKWh := u.dailyDivertedKWh + r.diverted
    dailyBoostedKWh := u.dailyBoostedKWh + r.boosted }
  if u.currentDom ≠ r.dom then
    { u with
      exportData := u.exportData ++
        [[.int year, .int month, .int u.currentDom, .float u.dailyBoostedKWh,
          .float u.dailyDivertedKWh]]
      currentDom := r.dom
      dailyBoostedKWh := 0
      dailyDivertedKWh := 0 }
  else u

/-- One round of the loop over `usage_data`. -/
def readUsage (year month : Int) (deviceType : String) (u : Usage)
    (r : Reading) : Usage :=
  if r.mon = month ∧ r.yr = year then
    let u := { u with lastDom := r.dom }
    if deviceType = "zappi" then u.addReading year month r
    else if deviceType = "eddi" then u.addReading year month r
    else u
  else u

/-- The row appended after the loop. -/
def exportLast (u : Usage) : Usage :=
  { u with
    exportData := u.exportData ++
      [[.int u.lastDom, .float u.dailyBoostedKWh,
        .float u.dailyDivertedKWh]] }

end Usage

/-- The variables as they are when the CSV file of a device is written, and
in them its rows. -/
def deviceUsage (year month : Int) (deviceType : String)
    (usageData : List Reading) : Usage :=
  (usageData.foldl (Usage.readUsage year month deviceType)
    { exportData := [header] }).exportLast

end SmartHome.Myenergi
