import SmartHome.Python.Json

/-!
# The usage download: the script

`fetch.py` from its first request to its end. It asks the service for the
devices, stops if the answer is not a 200, goes through the answer for the hub
and the devices, asks for a month of readings, checks that answer too, and
then writes a CSV file for each device, one after the other.

The answers of the service are parameters. What the script has done by the
time it ends, which an exception may make it do early, is the `World` that it
leaves: whether it asked for the readings, which readings it went through,
and which files it wrote. The year and the month are such that there is a
date in them, what is printed can be printed, and a file is written whole,
whatever its text, under a name that the operating system takes.

A reading is taken as it comes. Its day is looked up, compared and written,
and may be any value at all; its amounts are divided and added up as Python
does it, in floating point. What the loop makes of readings that are in good
order, with exact amounts, is in `Fetch`.
-/

namespace SmartHome.Myenergi

open Python

/-- What is written to a device's file, and the device it is written for. -/
structure Export where
  serialNumber : String
  fileName : String
  rows : List (List Json)

structure World where
  /-- The readings were asked for. -/
  requested : Bool := false
  /-- What the loop over `usage_data` has come to. -/
  readings : List Json := []
  /-- The files, in the order they were written. -/
  exports : List Export := []

/-- What a file has in it in the end. -/
def World.onDisk (w : World) (fileName : String) : Option Export :=
  w.exports.reverse.find? (·.fileName == fileName)

/-- How a script ends before its last line. -/
inductive Stop where
  /-- `exit()` -/
  | exit
  | raised (e : Exception)
deriving DecidableEq, Repr

/-- What Python runs, with its exceptions. -/
abbrev PyM := EStateM Exception World
abbrev Script := EStateM Stop World

def raise {α : Type} : Except Exception α → PyM α
  | .ok a => pure a
  | .error e => throw e

structure Response where
  statusCode : Int
  /-- `none` if it is not JSON. -/
  body : Option Json

def Response.json (r : Response) : Except Exception Json :=
  match r.body with
  | some j => .ok j
  | none => .error .jsonDecodeError

/-! ## The devices -/

structure Device where
  deviceType : String
  serialNumber : String
deriving DecidableEq, Repr

/-- The two fields that the loops read, and that the first one prints, so
that they have to be strings. -/
def Device.ofJson (j : Json) : Except Exception Device := do
  let device ← j.getItem "device"
  let deviceType ← device.getItem "deviceType"
  let serialNumber ← device.getItem "serialNumber"
  return { deviceType := ← deviceType.asStr
           serialNumber := ← serialNumber.asStr }

/-- From the answer to the first request to the second one. -/
def devicesOf (responseJson : Json) : Except Exception (List Device) := do
  let hubsData ← (← responseJson.getItem "content").getItem "hubs"
  let hubData ← hubsData.first
  let _ ← (← hubData.getItem "hub").getItem "id"
  let devicesData ← (← responseJson.getItem "content").getItem "devices"
  (← devicesData.iter).mapM Device.ofJson

/-! ## The readings -/

/-- The variables of the reading loop. -/
structure Loop where
  totalDivertedKWh : Number := .int 0
  totalBoostedKWh : Number := .int 0
  dailyDivertedKWh : Number := .int 0
  dailyBoostedKWh : Number := .int 0
  exportData : List (List Json) :=
    [[.str "Year", .str "Month", .str "Day", .str "Boosted kWh",
      .str "Diverted kWh"]]
  currentDom : Json := .ofInt 1
  lastDom : Json := .ofInt 1

/-- `_reading["mon"] == month and _reading["yr"] == year` -/
def isOfMonth (year month : Int) (reading : Json) : Except Exception Bool := do
  if (← reading.getItem "mon").eq (.ofInt month) then
    return (← reading.getItem "yr").eq (.ofInt year)
  else return false

/-- `_reading[key] / ws_to_kWh`, or 0 if the reading has no such key. -/
def readKWh (reading : Json) (key : String) : Except Exception Number := do
  if reading.hasKey key then
    (← reading.getItem key).div (60 * 60 * 1000)
  else return .int 0

namespace Loop

/-- What a device's branch does with the amounts of a reading, once it has
them. -/
def addAmounts (year month : Int) (u : Loop) (dom : Json)
    (diverted boosted : Number) : Loop :=
  let u := { u with
    totalDivertedKWh := u.totalDivertedKWh + diverted
    totalBoostedKWh := u.totalBoostedKWh + boosted
    dailyDivertedKWh := u.dailyDivertedKWh + diverted
    dailyBoostedKWh := u.dailyBoostedKWh + boosted }
  if u.currentDom.eq dom then u
  else
    { u with
      exportData := u.exportData ++
        [[.ofInt year, .ofInt month, u.currentDom, .num u.dailyBoostedKWh,
          .num u.dailyDivertedKWh]]
      currentDom := dom
      dailyBoostedKWh := .int 0
      dailyDivertedKWh := .int 0 }

/-- The body of a device's branch. -/
def addReading (year month : Int) (u : Loop) (reading : Json) :
    Except Exception Loop := do
  let diverted ← readKWh reading "h1d"
  let boosted ← readKWh reading "h1b"
  let dom ← reading.getItem "dom"
  return u.addAmounts year month dom diverted boosted

/-- One round of the loop over `usage_data`. -/
def readUsage (year month : Int) (deviceType : String) (u : Loop)
    (reading : Json) : Except Exception Loop := do
  if ← isOfMonth year month reading then
    let u := { u with lastDom := ← reading.getItem "dom" }
    if deviceType = "zappi" then u.addReading year month reading
    else if deviceType = "eddi" then u.addReading year month reading
    else return u
  else return u

/-- The row appended after the loop. -/
def exportLast (u : Loop) : Loop :=
  { u with
    exportData := u.exportData ++
      [[u.lastDom, .num u.dailyBoostedKWh, .num u.dailyDivertedKWh]] }

end Loop

/-- A round of the loop, as far as the rest of the script can tell. -/
def readReading (year month : Int) (deviceType : String) (u : Loop)
    (reading : Json) : PyM Loop := do
  modify fun w => { w with readings := w.readings ++ [reading] }
  raise (u.readUsage year month deviceType reading)

/-! ## The files -/

/-- `serial_key.format(serial=serial)` -/
def Device.serialKey (device : Device) : String := "U" ++ device.serialNumber

def Device.fileName (year month : Int) (device : Device) : String :=
  device.deviceType ++ "_" ++ device.serialNumber ++ "_" ++ toString year ++
    "_" ++ toString month ++ ".csv"

/-- A round of the loop over the devices, up to the file. The totals are
rounded to be printed. -/
def readDevice (year month : Int) (responseJson : Json) (device : Device) :
    PyM Export := do
  let content ← raise (responseJson.getItem "content")
  let usageData ← raise (content.getItem device.serialKey)
  let readings ← raise usageData.iter
  let u ← readings.foldlM (readReading year month device.deviceType) {}
  let _ ← raise u.totalBoostedKWh.round
  let _ ← raise u.totalDivertedKWh.round
  return { serialNumber := device.serialNumber
           fileName := device.fileName year month
           rows := u.exportLast.exportData }

/-- One round of the loop over the devices. -/
def exportDevice (year month : Int) (responseJson : Json) (device : Device) :
    PyM Unit := do
  let file ← readDevice year month responseJson device
  modify fun w => { w with exports := w.exports ++ [file] }

/-- From "Processing usage data..." to the end. -/
def processUsageData (year month : Int) (devices : List Device)
    (dataResponse : Response) : PyM Unit := do
  let responseJson ← raise dataResponse.json
  forM devices (exportDevice year month responseJson)

/-- What Python raises, nobody catches. -/
def uncaught {α : Type} (p : PyM α) : Script α :=
  EStateM.adaptExcept .raised p

def script (year month : Int) (devicesResponse dataResponse : Response) :
    Script Unit := do
  if devicesResponse.statusCode ≠ 200 then throw .exit
  let responseJson ← uncaught (raise devicesResponse.json)
  let devices ← uncaught (raise (devicesOf responseJson))
  modify fun w => { w with requested := true }
  if dataResponse.statusCode ≠ 200 then
    -- `exit`, without its parentheses, is an expression.
    pure ()
  uncaught (processUsageData year month devices dataResponse)

end SmartHome.Myenergi
