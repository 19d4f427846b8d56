import Mathlib.Data.List.Nodup
import Mathlib.Data.List.TakeWhile
import SmartHome.Machine.History
import SmartHome.Proofs.Readings
import SmartHome.Proofs.Requests

/-!
# Which devices get their file

The loop over the devices has no memory: all of its variables are assigned
again in each round, and a file has in it what the device's own entry makes
of it, `exportOf`. What one device can do to another is to keep the loop from
getting there. The readings of a device are looked up with an index, and for
a device that the service has none of, that is a `KeyError`, which ends the
script. Devices ahead of the first one without an entry get their files, and
none after it. The same goes for an entry that is not `Legible`. The other way
to lose a file is to have it overwritten, by a device that makes the same file
name of another type and serial number.
-/

namespace SmartHome.Myenergi

open Machine Python

variable {year month : Int}

/-! ## One device -/

def fileOf (year month : Int) (body : Json) (device : Device) :
    Except Exception Export := do
  let content ← body.getItem "content"
  let usageData ← content.getItem device.serialKey
  exportOf year month device usageData

section Device

variable {body : Json} {device : Device} {file : Export}

theorem run_raise_ok {α : Type} (a : α) (w : World) :
    (raise (.ok a)).run w = .ok a w := rfl

theorem yields_raise {α : Type} (r : Except Exception α) :
    Yields World.exports (raise r) r := by
  intro w
  cases r with
  | ok a => exact ⟨w, rfl, rfl⟩
  | error e => exact ⟨w, rfl, rfl⟩

theorem yields_readReading (deviceType : String) (u : Loop) (reading : Json) :
    Yields World.exports (readReading year month deviceType u reading)
      (u.readUsage year month deviceType reading) := by
  intro w
  obtain ⟨w', hexports, hrun⟩ :=
    yields_raise (u.readUsage year month deviceType reading)
      { w with readings := w.readings ++ [reading] }
  exact ⟨w', hexports, hrun⟩

/-- Up to the file, a round writes nothing. -/
theorem yields_readDevice (body : Json) (device : Device) :
    Yields World.exports (readDevice year month body device)
      (fileOf year month body device) := by
  unfold readDevice fileOf exportOf
  refine (yields_raise _).bind fun content => ?_
  refine (yields_raise _).bind fun usageData => ?_
  refine (yields_raise _).bind fun readings => ?_
  refine (yields_foldlM (yields_readReading _) _ _).bind fun u => ?_
  refine (yields_raise _).bind fun _ => (yields_raise _).bind fun _ => ?_
  exact yields_pure _

theorem run_exportDevice_ok (h : fileOf year month body device = .ok file)
    (w : World) :
    ∃ w', (exportDevice year month body device).run w = .ok () w' ∧
      w'.exports = w.exports ++ [file] := by
  obtain ⟨w', hexports, hrun⟩ := yields_readDevice body device w
  rw [h] at hrun
  refine ⟨{ w' with exports := w'.exports ++ [file] }, ?_, ?_⟩
  · rw [exportDevice, run_bind_of_ok hrun]
    rfl
  · rw [← hexports]

theorem run_exportDevice_error {e : Exception}
    (h : fileOf year month body device = .error e) (w : World) :
    ∃ w', (exportDevice year month body device).run w = .error e w' ∧
      w'.exports = w.exports := by
  obtain ⟨w', hexports, hrun⟩ := yields_readDevice body device w
  rw [h] at hrun
  exact ⟨w', run_bind_of_error hrun, hexports⟩

/-- The loop over the devices writes the files of those ahead of the first one
that has none. -/
theorem run_exportDevices (year month : Int) (body : Json)
    (devices : List Device) (w : World) :
    (left (forM devices (exportDevice year month body)) w).exports =
        w.exports ++ (mapUntil (fileOf year month body) devices).1 ∧
      stopped ((forM devices (exportDevice year month body)).run w) =
        (mapUntil (fileOf year month body) devices).2 :=
  run_forM_mapUntil (fun _ w _ h => run_exportDevice_ok h w)
    (fun _ w _ h => run_exportDevice_error h w) devices w

theorem names_fileOf (h : fileOf year month body device = .ok file) :
    file.serialNumber = device.serialNumber ∧
      file.fileName = device.fileName year month := by
  obtain ⟨content, -, h⟩ := ok_of_bind_ok h
  obtain ⟨usageData, -, h⟩ := ok_of_bind_ok h
  obtain ⟨readings, u, -, -, rfl⟩ := exportOf_eq_ok h
  exact ⟨rfl, rfl⟩

end Device

/-! ## A download -/

/-- Two answers that the script can use: the devices, each with a serial
number of its own, and a dictionary to look their readings up in. -/
structure Download (year month : Int) where
  devicesResponse : Response
  devices : List Device
  devices_ok : devicesResponse.statusCode = 200
  devices_read : readDevices devicesResponse = .ok devices
  distinct : (devices.map Device.serialNumber).Nodup
  dataResponse : Response
  body : Json
  content : List (String × Json)
  data_ok : dataResponse.statusCode = 200
  data_body : dataResponse.body = some body
  data_content : body.getItem "content" = .ok (.obj content)

namespace Download

variable (d : Download year month)

def has (device : Device) : Bool := (d.content.lookup device.serialKey).isSome

def Readable : Prop :=
  ∀ device ∈ d.devices, ∀ usageData ∈ d.content.lookup device.serialKey,
    Legible year month device.deviceType usageData

def world : World :=
  left (script year month d.devicesResponse d.dataResponse) {}

/-- The file a device is to have, by its type and its own entry. -/
def csvOf (device : Device) : Export where
  serialNumber := device.serialNumber
  fileName := device.fileName year month
  rows :=
    match fileOf year month d.body device with
    | .ok file => file.rows
    | .error _ => []

theorem fileOf_eq {device : Device} {usageData : Json}
    (hentry : d.content.lookup device.serialKey = some usageData) :
    fileOf year month d.body device = exportOf year month device usageData := by
  rw [fileOf, d.data_content, ok_bind, Json.getItem_of_lookup hentry, ok_bind]

theorem csvOf_eq {device : Device} {file : Export}
    (h : fileOf year month d.body device = .ok file) :
    d.csvOf device = file := by
  obtain ⟨hserial, hname⟩ := names_fileOf h
  rw [csvOf, h, ← hserial, ← hname]

theorem exportOf_csvOf {device : Device} {usageData : Json}
    (hentry : d.content.lookup device.serialKey = some usageData)
    (hlegible : Legible year month device.deviceType usageData) :
    exportOf year month device usageData = .ok (d.csvOf device) := by
  obtain ⟨file, hfile⟩ := isOk_iff.mp (isOk_exportOf.mpr hlegible)
  rw [d.csvOf_eq (d.fileOf_eq hentry ▸ hfile), hfile]

theorem exports_processUsageData :
    d.world.exports =
      (mapUntil (fileOf year month d.body) d.devices).1 := by
  have hscript : d.world =
      left (processUsageData year month d.devices d.dataResponse)
        { requested := true } := by
    rw [world, left, script_devices d.devices_ok d.devices_read]
    exact left_uncaught _ _
  have hjson : d.dataResponse.json = .ok d.body := by
    rw [Response.json, d.data_body]
  rw [hscript, processUsageData, hjson, left_bind_of_ok (run_raise_ok _ _)]
  exact (run_exportDevices year month d.body d.devices
    { requested := true }).1

/-- The files that are written are those of the devices ahead of the first
one without an entry. -/
theorem exports_eq (hreadable : d.Readable) :
    d.world.exports = (d.devices.takeWhile d.has).map d.csvOf := by
  rw [exports_processUsageData]
  apply mapUntil_eq_takeWhile
  · intro device hmem hhas
    obtain ⟨usageData, hentry⟩ := Option.isSome_iff_exists.mp hhas
    rw [d.fileOf_eq hentry]
    exact d.exportOf_csvOf hentry (hreadable device hmem usageData hentry)
  · intro device _ hhas
    have hentry : d.content.lookup device.serialKey = none :=
      Option.not_isSome_iff_eq_none.mp fun h => by
        rw [has, h] at hhas
        cases hhas
    refine ⟨.keyError device.serialKey, ?_⟩
    rw [fileOf, d.data_content, ok_bind, Json.getItem_of_not_mem hentry]
    rfl

theorem eq_of_serialNumber_eq {device other : Device}
    (hmem : device ∈ d.devices) (hother : other ∈ d.devices)
    (h : device.serialNumber = other.serialNumber) : device = other :=
  List.inj_on_of_nodup_map d.distinct hmem hother h

theorem of_onDisk (hreadable : d.Readable) {fileName : String}
    {file : Export} (h : d.world.onDisk fileName = some file) :
    ∃ device ∈ d.devices.takeWhile d.has, d.csvOf device = file := by
  have hmem := List.mem_of_find?_eq_some h
  rw [List.mem_reverse, d.exports_eq hreadable] at hmem
  exact List.mem_map.mp hmem

theorem onDisk_of_unique (hreadable : d.Readable) {device : Device}
    (hmem : device ∈ d.devices.takeWhile d.has)
    (hunique : ∀ other ∈ d.devices.takeWhile d.has,
      other.fileName year month = device.fileName year month →
        other = device) :
    d.world.onDisk (device.fileName year month) =
      some (d.csvOf device) := by
  unfold World.onDisk
  rw [d.exports_eq hreadable]
  cases hfind : ((d.devices.takeWhile d.has).map d.csvOf).reverse.find?
      (·.fileName == device.fileName year month) with
  | none =>
      have hno := List.find?_eq_none.mp hfind (d.csvOf device)
        (List.mem_reverse.mpr (List.mem_map_of_mem hmem))
      exact absurd (beq_self_eq_true _) hno
  | some file =>
      have hname := List.find?_some hfind
      have hfile := List.mem_reverse.mp (List.mem_of_find?_eq_some hfind)
      obtain ⟨other, hother, rfl⟩ := List.mem_map.mp hfile
      rw [beq_iff_eq] at hname
      rw [hunique other hother hname]

/-! ## Every device -/

/-- The device has its file in the end, made of its own entry. -/
def GetsCsv (device : Device) (usageData : Json) : Prop :=
  ∃ file, exportOf year month device usageData = .ok file ∧
    d.world.onDisk (device.fileName year month) = some file

/-- Whatever other devices there are, and in whatever order. -/
def Independent : Prop :=
  ∀ device ∈ d.devices, ∀ usageData ∈ d.content.lookup device.serialKey,
    d.GetsCsv device usageData

theorem Independent.readable {d : Download year month}
    (h : d.Independent) : d.Readable := by
  intro device hmem usageData hentry
  obtain ⟨file, hfile, -⟩ := h device hmem usageData hentry
  exact isOk_exportOf.mp (isOk_iff.mpr ⟨file, hfile⟩)

theorem getsCsv_iff {device : Device} {usageData : Json}
    (hentry : d.content.lookup device.serialKey = some usageData)
    (hlegible : Legible year month device.deviceType usageData) :
    d.GetsCsv device usageData ↔
      d.world.onDisk (device.fileName year month) =
        some (d.csvOf device) := by
  rw [GetsCsv, d.exportOf_csvOf hentry hlegible]
  simp

theorem Independent.onDisk {d : Download year month}
    (h : d.Independent) {device : Device} (hmem : device ∈ d.devices)
    (hhas : d.has device = true) :
    d.world.onDisk (device.fileName year month) =
      some (d.csvOf device) := by
  obtain ⟨usageData, hentry⟩ := Option.isSome_iff_exists.mp hhas
  have hlegible := h.readable device hmem usageData hentry
  exact (d.getsCsv_iff hentry hlegible).mp (h device hmem usageData hentry)

/-- No device without readings is ahead of one with readings. -/
def NoneMissingAhead : Prop :=
  EachAfter (fun ahead device => d.has device = true →
    ∀ other ∈ ahead, d.has other = true) d.devices

def NoNameTwice : Prop :=
  ∀ device ∈ d.devices, ∀ other ∈ d.devices, d.has device = true →
    d.has other = true →
      device.fileName year month = other.fileName year month →
        device = other

theorem mem_takeWhile_iff {ahead post : List Device} {device : Device}
    (h : d.devices = ahead ++ device :: post) :
    device ∈ d.devices.takeWhile d.has ↔
      d.has device = true ∧ ∀ other ∈ ahead, d.has other = true := by
  have hnodup := d.distinct.of_map
  rw [h] at hnodup ⊢
  have hnotmem : device ∉ ahead := fun hmem =>
    List.disjoint_of_nodup_append hnodup hmem List.mem_cons_self
  by_cases hall : ∀ other ∈ ahead, d.has other = true
  · rw [List.takeWhile_append_of_pos hall, List.mem_append,
      or_iff_right hnotmem, List.takeWhile_cons, and_iff_left hall]
    cases d.has device <;> simp
  · rw [List.takeWhile_append, if_neg]
    case hnc =>
      intro hlength
      exact hall (List.takeWhile_eq_self_iff.mp
        ((List.takeWhile_prefix _).eq_of_length hlength))
    refine iff_of_false (fun hmem => ?_) (fun hboth => hall hboth.2)
    exact hnotmem ((List.takeWhile_prefix _).subset hmem)

/-- A file that is there was written, so the loop got to its device. -/
theorem Independent.noneMissingAhead {d : Download year month}
    (h : d.Independent) : d.NoneMissingAhead := by
  intro ahead device post hsplit hhas
  have hmem : device ∈ d.devices := by
    rw [hsplit]
    simp
  obtain ⟨writer, hwriter, hfile⟩ :=
    d.of_onDisk h.readable (h.onDisk hmem hhas)
  -- The file has the device's serial number, so it was written for it.
  have hsame : writer = device := by
    apply d.eq_of_serialNumber_eq ((List.takeWhile_prefix _).subset hwriter)
      hmem
    exact congrArg Export.serialNumber hfile
  rw [hsame, d.mem_takeWhile_iff hsplit] at hwriter
  exact hwriter.2

theorem Independent.noNameTwice {d : Download year month}
    (h : d.Independent) : d.NoNameTwice := by
  intro device hmem other hother hhas hhas' hname
  have hone := h.onDisk hmem hhas
  rw [hname, h.onDisk hother hhas'] at hone
  exact d.eq_of_serialNumber_eq hmem hother
    (congrArg Export.serialNumber (Option.some.inj hone)).symm

/-- Every device with an entry gets its file, made of its own readings,
exactly if every entry is one of readings, no device without an entry is ahead
of one with an entry, and no name is used twice. -/
theorem independent_iff (d : Download year month) :
    d.Independent ↔ d.Readable ∧ d.NoneMissingAhead ∧ d.NoNameTwice := by
  constructor
  · intro h
    exact ⟨h.readable, h.noneMissingAhead, h.noNameTwice⟩
  · intro h device hmem usageData hentry
    obtain ⟨hreadable, hahead, hnames⟩ := h
    have hhas : d.has device = true := by
      rw [has, hentry]
      rfl
    obtain ⟨ahead, post, hsplit⟩ := List.append_of_mem hmem
    have hwriter : device ∈ d.devices.takeWhile d.has :=
      (d.mem_takeWhile_iff hsplit).mpr
        ⟨hhas, hahead ahead device post hsplit hhas⟩
    rw [d.getsCsv_iff hentry (hreadable device hmem usageData hentry)]
    apply d.onDisk_of_unique hreadable hwriter
    intro other hother hname
    exact hnames other ((List.takeWhile_prefix _).subset hother) device hmem
      (List.mem_takeWhile_imp hother) hhas hname

end Download

/-! ## A device that has no readings -/

def deviceJson (device : Device) : Json :=
  .obj [("device", .obj [("deviceType", .str device.deviceType),
    ("serialNumber", .str device.serialNumber)])]

def harvi : Device := { deviceType := "harvi", serialNumber := "10" }
def zappi : Device := { deviceType := "zappi", serialNumber := "20" }

/-- A sensor that the service has no readings of, and then a charger. -/
def harviFirst : Download 2023 7 where
  devicesResponse :=
    { statusCode := 200
      body := some (.obj [("content", .obj [
        ("hubs", .arr [.obj [("hub", .obj [("id", .ofInt 1)])]]),
        ("devices", .arr [deviceJson harvi, deviceJson zappi])])]) }
  devices := [harvi, zappi]
  devices_ok := rfl
  devices_read := rfl
  distinct := by decide
  body := .obj [("content", .obj [("U20", .arr [])])]
  dataResponse :=
    { statusCode := 200
      body := some (.obj [("content", .obj [("U20", .arr [])])]) }
  content := [("U20", .arr [])]
  data_ok := rfl
  data_body := rfl
  data_content := rfl

/-- The charger does not get its file. -/
theorem not_always_independent :
    ¬ ∀ (year month : Int) (d : Download year month), d.Independent := by
  intro h
  obtain ⟨file, -, hdisk⟩ :=
    h 2023 7 harviFirst zappi (by decide) (.arr []) rfl
  have hnone : harviFirst.world.onDisk (zappi.fileName 2023 7) = none := rfl
  rw [hnone] at hdisk
  cases hdisk

end SmartHome.Myenergi
