import SmartHome.Machine.Program
import SmartHome.Myenergi.Script

/-!
# What a failed request stops

The script checks both answers of the service the same way, prints the same
message, and means to end in both places. The first check does, with `exit()`.
The second has `exit`, which is the name of the function and not a call of
it, so the script goes on whatever the status was: `script_data_status` says
that it cannot be told from the run. If the body happens to be of the kind
that is expected, the files of an earlier run are overwritten.

So the script stops where it should unless the second answer is the one that
failed, and the script got as far as to ask for it.
-/

namespace SmartHome.Myenergi

open Machine Python

variable {year month : Int} {devicesResponse dataResponse : Response}

/-! ## The run, up to the second answer -/

theorem run_uncaught_ok {α : Type} (a : α) (w : World) :
    (uncaught (raise (.ok a))).run w = .ok a w := rfl

/-- The answer to the first request has the hub and the devices where the
script looks for them. -/
def readDevices (devicesResponse : Response) :
    Except Exception (List Device) := do
  devicesOf (← devicesResponse.json)

theorem script_failed_devices (h : devicesResponse.statusCode ≠ 200) :
    (script year month devicesResponse dataResponse).run {} =
      .error .exit {} := by
  unfold script
  rw [if_pos h]
  rfl

/-- After the first check, whatever the second answer's status. -/
theorem script_readDevices (hstatus : devicesResponse.statusCode = 200) :
    (script year month devicesResponse dataResponse).run {} =
      (do
        let devices ← uncaught (raise (readDevices devicesResponse))
        modify fun w => { w with requested := true }
        uncaught (processUsageData year month devices dataResponse) :
          Script Unit).run {} := by
  unfold script readDevices
  rw [if_neg fun h => h hstatus]
  cases devicesResponse.json with
  | error e => rfl
  | ok j =>
      by_cases hdata : dataResponse.statusCode ≠ 200
      · simp only [if_pos hdata]
        rfl
      · simp only [if_neg hdata]
        rfl

theorem script_unreadable_devices {e : Exception}
    (hstatus : devicesResponse.statusCode = 200)
    (hread : readDevices devicesResponse = .error e) :
    (script year month devicesResponse dataResponse).run {} =
      .error (.raised e) {} := by
  rw [script_readDevices hstatus, hread]
  rfl

theorem script_devices {devices : List Device}
    (hstatus : devicesResponse.statusCode = 200)
    (hread : readDevices devicesResponse = .ok devices) :
    (script year month devicesResponse dataResponse).run {} =
      (uncaught
        (processUsageData year month devices dataResponse)).run
          { requested := true } := by
  rw [script_readDevices hstatus, hread,
    run_bind_of_ok (run_uncaught_ok devices _),
    run_bind_of_ok (EStateM.run_modify _ _)]

/-- The second check is no check. -/
theorem script_data_status (statusCode : Int) (body : Option Json) :
    (script year month devicesResponse { statusCode, body }).run {} =
      (script year month devicesResponse { statusCode := 200, body }).run
        {} := by
  by_cases hstatus : devicesResponse.statusCode = 200
  · cases hread : readDevices devicesResponse with
    | error e =>
        rw [script_unreadable_devices hstatus hread,
          script_unreadable_devices hstatus hread]
    | ok devices =>
        rw [script_devices hstatus hread, script_devices hstatus hread]
        rfl
  · rw [script_failed_devices hstatus, script_failed_devices hstatus]

/-! ## What is asked for, and how it ends -/

theorem keeps_requested (devices : List Device) :
    Keeps (fun w : World => w.requested = true)
      (processUsageData year month devices dataResponse) := by
  have hraise {α : Type} (r : Except Exception α) :
      Keeps (fun w : World => w.requested = true) (raise r) := by
    cases r with
    | ok a => exact keeps_pure a
    | error e => exact keeps_throw e
  have hreading (deviceType : String) (u : Loop) (j : Json) :
      Keeps (fun w : World => w.requested = true)
        (readReading year month deviceType u j) := by
    unfold readReading
    apply Keeps.bind
    case hp => exact keeps_modify fun w h => h
    case hf => exact fun _ => hraise _
  have hdevice (j : Json) (device : Device) :
      Keeps (fun w : World => w.requested = true)
        (readDevice year month j device) := by
    unfold readDevice
    refine (hraise _).bind fun content => (hraise _).bind fun usageData =>
      (hraise _).bind fun readings => ?_
    refine (keeps_foldlM (hreading _) _ _).bind fun u => ?_
    exact (hraise _).bind fun _ => (hraise _).bind fun _ => keeps_pure _
  unfold processUsageData
  refine (hraise _).bind fun j => keeps_forM (fun device => ?_) devices
  exact (hdevice j device).bind fun file => keeps_modify fun w h => h

theorem uncaught_ne_exit {α : Type} (p : PyM α) (w w' : World) :
    (uncaught p).run w ≠ .error .exit w' := by
  unfold uncaught
  rw [EStateM.run_adaptExcept]
  intro h
  cases hp : p.run w with
  | ok a w'' =>
      rw [hp] at h
      cases h
  | error e w'' =>
      rw [hp] at h
      cases h

theorem left_uncaught {α : Type} (p : PyM α) (w : World) :
    left (uncaught p) w = left p w := by
  unfold uncaught left
  rw [EStateM.run_adaptExcept]
  cases p.run w <;> rfl

/-- The script ended by its own decision, and did nothing. -/
def EndsAtOnce (r : EStateM.Result Stop World Unit) : Prop :=
  ∃ w, r = .error .exit w ∧ w.readings = [] ∧ w.exports = []

/-- An answer that is not a 200 ends the script, at the devices before the
readings are asked for, and at the readings if they are. -/
structure FailureStops (year month : Int)
    (devicesResponse dataResponse : Response) : Prop where
  devices : devicesResponse.statusCode ≠ 200 →
    EndsAtOnce ((script year month devicesResponse dataResponse).run {}) ∧
      (left (script year month devicesResponse dataResponse) {}).requested =
        false
  data :
    (left (script year month devicesResponse dataResponse) {}).requested =
      true →
    dataResponse.statusCode ≠ 200 →
      EndsAtOnce ((script year month devicesResponse dataResponse).run {})

theorem failure_stops_of_failed_devices
    (h : devicesResponse.statusCode ≠ 200) :
    FailureStops year month devicesResponse dataResponse := by
  have hrun : (script year month devicesResponse dataResponse).run {} =
      .error .exit {} := script_failed_devices h
  constructor
  case devices =>
    intro _
    refine ⟨⟨_, hrun, rfl, rfl⟩, ?_⟩
    rw [left_of_error hrun]
  case data =>
    intro _ _
    exact ⟨_, hrun, rfl, rfl⟩

theorem failure_stops_of_unreadable_devices {e : Exception}
    (hstatus : devicesResponse.statusCode = 200)
    (hread : readDevices devicesResponse = .error e) :
    FailureStops year month devicesResponse dataResponse := by
  constructor
  case devices =>
    intro h
    exact absurd hstatus h
  case data =>
    intro hrequested
    rw [left_of_error (script_unreadable_devices hstatus hread)]
      at hrequested
    exact Bool.noConfusion hrequested

theorem failure_stops_of_devices_iff {devices : List Device}
    (hstatus : devicesResponse.statusCode = 200)
    (hread : readDevices devicesResponse = .ok devices) :
    FailureStops year month devicesResponse dataResponse ↔
      dataResponse.statusCode = 200 := by
  have hrun : (script year month devicesResponse dataResponse).run {} = _ :=
    script_devices hstatus hread
  constructor
  · intro h
    by_cases hdata : dataResponse.statusCode = 200
    · exact hdata
    · have hrequested :
          (left (script year month devicesResponse dataResponse) {}).requested
            = true := by
        rw [left, hrun]
        show (left (uncaught _) _).requested = true
        rw [left_uncaught]
        exact keeps_requested devices _ rfl
      obtain ⟨w, hexit, -, -⟩ := h.data hrequested hdata
      rw [hrun] at hexit
      exact absurd hexit (uncaught_ne_exit _ _ _)
  · intro hdata
    constructor
    case devices =>
      intro h
      exact absurd hstatus h
    case data =>
      intro _ h
      exact absurd hdata h

/-- That is so unless it is the second answer that is not a 200. -/
theorem failure_stops_iff (year month : Int)
    (devicesResponse dataResponse : Response) :
    FailureStops year month devicesResponse dataResponse ↔
      devicesResponse.statusCode ≠ 200 ∨
        (∀ devices, readDevices devicesResponse ≠ .ok devices) ∨
        dataResponse.statusCode = 200 := by
  by_cases hstatus : devicesResponse.statusCode = 200
  · rw [or_iff_right fun h => h hstatus]
    cases hread : readDevices devicesResponse with
    | error e =>
        refine iff_of_true
          (failure_stops_of_unreadable_devices hstatus hread) (Or.inl ?_)
        intro devices h
        cases h
    | ok devices =>
        rw [failure_stops_of_devices_iff hstatus hread, or_iff_right]
        intro h
        exact h devices rfl
  · exact iff_of_true (failure_stops_of_failed_devices hstatus)
      (Or.inl hstatus)

/-! ## A failed request that overwrites a file -/

def oneZappi : Response where
  statusCode := 200
  body := some (.obj [("content", .obj [
    ("hubs", .arr [.obj [("hub", .obj [("id", .ofInt 1)])]]),
    ("devices", .arr [.obj [("device", .obj [
      ("deviceType", .str "zappi"), ("serialNumber", .str "1")])]])])])

/-- An error whose body has the usage data in it all the same. -/
def serverError : Response where
  statusCode := 500
  body := some (.obj [("content", .obj [("U1", .arr [.obj [
    ("yr", .ofInt 2023), ("mon", .ofInt 7), ("dom", .ofInt 1),
    ("h1d", .ofInt 3600000)]])])])

/-- The reading is processed, and the file of the month written. -/
theorem failure_does_not_stop :
    ¬ FailureStops 2023 7 oneZappi serverError ∧
      (left (script 2023 7 oneZappi serverError) {}).exports.map
        (·.fileName) = ["zappi_1_2023_7.csv"] := by
  constructor
  · intro h
    obtain ⟨w, hexit, -, -⟩ := h.data rfl (by decide)
    cases hexit
  · rfl

end SmartHome.Myenergi
