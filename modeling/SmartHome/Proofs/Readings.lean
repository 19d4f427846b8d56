import SmartHome.Machine.Program
import SmartHome.Myenergi.Script
import SmartHome.Proofs.Export

/-!
# What the loop makes of a device's entry

Between the lookup of a device's entry and the file that is made of it the
script changes nothing that is left behind, so that a round of the loop over
the devices comes to a value or an exception: `exportOf`, for an entry that
has been looked up.

Three things are said of it. `isOk_exportOf` is which entries have a file made
of them, and it asks nothing of a reading that the loop does not look at.
`exportOf_runs` is what is in the file: the readings of the month are cut into
runs, one for each row, and nothing is between the runs, before the first or
after the last. An amount in a row is the sum of its run, as floating point
has it. And `exportOf_shows` is the way to the loop as `Fetch` has it, with
exact amounts: if the readings have whole numbers for their dates, then the
rows are those ones, but for the digits of the amounts.
-/

namespace SmartHome.Myenergi

open Machine Python

variable {year month : Int} {deviceType : String}

/-! ## A round -/

/-- The type has a branch of its own. -/
def isMetered (deviceType : String) : Bool :=
  deviceType == "zappi" || deviceType == "eddi"

def Counter.key : Counter → String
  | .boosted => "h1b"
  | .diverted => "h1d"

namespace Loop

/-- What a round can come to. -/
inductive Round (year month : Int) (deviceType : String) (u : Loop)
    (reading : Json) : Loop → Prop
  | other (hmonth : isOfMonth year month reading = .ok false) :
      Round year month deviceType u reading u
  | noted {dom : Json} (hmonth : isOfMonth year month reading = .ok true)
      (hdom : reading.getItem "dom" = .ok dom)
      (htype : isMetered deviceType = false) :
      Round year month deviceType u reading { u with lastDom := dom }
  | added {dom : Json} {diverted boosted : Number}
      (hmonth : isOfMonth year month reading = .ok true)
      (hdom : reading.getItem "dom" = .ok dom)
      (htype : isMetered deviceType = true)
      (hdiverted : readKWh reading "h1d" = .ok diverted)
      (hboosted : readKWh reading "h1b" = .ok boosted) :
      Round year month deviceType u reading
        (addAmounts year month { u with lastDom := dom } dom diverted boosted)

/-- The two branches are the same. -/
theorem readUsage_eq (u : Loop) (reading : Json) :
    u.readUsage year month deviceType reading = (do
      if ← isOfMonth year month reading then
        let u := { u with lastDom := ← reading.getItem "dom" }
        if isMetered deviceType then u.addReading year month reading
        else return u
      else return u) := by
  unfold readUsage isMetered
  congr
  funext b
  cases b with
  | false => rfl
  | true =>
      congr
      funext dom
      by_cases hzappi : deviceType = "zappi"
      · simp [hzappi]
      · simp [hzappi]

theorem readUsage_eq_ok_iff {u u' : Loop} {reading : Json} :
    u.readUsage year month deviceType reading = .ok u' ↔
      Round year month deviceType u reading u' := by
  rw [readUsage_eq]
  constructor
  · intro h
    obtain ⟨b, hmonth, h⟩ := ok_of_bind_ok h
    cases b with
    | false =>
        cases h
        exact .other hmonth
    | true =>
        obtain ⟨dom, hdom, h⟩ := ok_of_bind_ok h
        cases htype : isMetered deviceType with
        | false =>
            rw [htype] at h
            cases h
            exact .noted hmonth hdom htype
        | true =>
            rw [htype] at h
            obtain ⟨diverted, hdiverted, h⟩ := ok_of_bind_ok h
            obtain ⟨boosted, hboosted, h⟩ := ok_of_bind_ok h
            obtain ⟨dom', hdom', h⟩ := ok_of_bind_ok h
            cases h
            rw [hdom] at hdom'
            cases hdom'
            exact .added hmonth hdom htype hdiverted hboosted
  · intro h
    cases h with
    | other hmonth => rw [hmonth]; rfl
    | noted hmonth hdom htype => rw [hmonth, hdom, htype]; rfl
    | added hmonth hdom htype hdiverted hboosted =>
        rw [hmonth, hdom, htype]
        dsimp only [ok_bind]
        rw [addReading]
        rw [hdiverted, hboosted, hdom]
        rfl

end Loop

/-! ## Which entries have a file made of them -/

/-- The loop can go over the reading. It needs a month; of that month it needs
a year; and of that year a day, of whatever kind, and amounts that can be
divided where there are any and the device has a branch for them. -/
def Proper (year month : Int) (deviceType : String) (reading : Json) : Prop :=
  ∃ mon, reading.getItem "mon" = .ok mon ∧ (mon.eq (.ofInt month) = true →
    ∃ yr, reading.getItem "yr" = .ok yr ∧ (yr.eq (.ofInt year) = true →
      (∃ dom, reading.getItem "dom" = .ok dom) ∧
        (isMetered deviceType = true → ∀ (c : Counter) (ws : Json),
          reading.getItem c.key = .ok ws →
            (ws.div (60 * 60 * 1000)).isOk = true)))

theorem hasKey_eq (j : Json) (key : String) :
    j.hasKey key = (j.getItem key).isOk := by
  cases j with
  | obj fields =>
      rw [Json.hasKey, Json.getItem]
      cases fields.lookup key <;> rfl
  | _ => rfl

theorem isOk_readKWh {reading : Json} {key : String} :
    (readKWh reading key).isOk = true ↔
      ∀ ws, reading.getItem key = .ok ws →
        (ws.div (60 * 60 * 1000)).isOk = true := by
  rw [readKWh, hasKey_eq]
  cases reading.getItem key with
  | ok ws => exact ⟨fun h _ hws => Except.ok.inj hws ▸ h, fun h => h ws rfl⟩
  | error e =>
      refine iff_of_true rfl fun ws hws => ?_
      cases hws

theorem isOk_addReading (u : Loop) {reading dom : Json}
    (hdom : reading.getItem "dom" = .ok dom) :
    (u.addReading year month reading).isOk = true ↔
      ∀ c : Counter, (readKWh reading c.key).isOk = true := by
  rw [Loop.addReading, hdom]
  simp only [isOk_bind]
  constructor
  · intro h c
    obtain ⟨diverted, hdiverted, boosted, hboosted, -⟩ := h
    cases c with
    | boosted => exact isOk_iff.mpr ⟨boosted, hboosted⟩
    | diverted => exact isOk_iff.mpr ⟨diverted, hdiverted⟩
  · intro h
    obtain ⟨diverted, hdiverted⟩ := isOk_iff.mp (h .diverted)
    obtain ⟨boosted, hboosted⟩ := isOk_iff.mp (h .boosted)
    exact ⟨diverted, hdiverted, boosted, hboosted, dom, rfl, rfl⟩

theorem isOk_ofMonth {reading : Json} {r : Except Exception Loop} {u : Loop} :
    (isOfMonth year month reading >>= fun b =>
        if b = true then r else pure u).isOk = true ↔
      ∃ mon, reading.getItem "mon" = .ok mon ∧
        (mon.eq (.ofInt month) = true →
          ∃ yr, reading.getItem "yr" = .ok yr ∧
            (yr.eq (.ofInt year) = true → r.isOk = true)) := by
  have hassoc : (isOfMonth year month reading >>= fun b =>
      if b = true then r else pure u) = (do
        let mon ← reading.getItem "mon"
        if mon.eq (.ofInt month) then
          let yr ← reading.getItem "yr"
          if yr.eq (.ofInt year) then r else return u
        else return u) := by
    rw [isOfMonth]
    cases reading.getItem "mon" with
    | error e => rfl
    | ok mon =>
        rw [ok_bind, ok_bind]
        cases mon.eq (.ofInt month) with
        | false => rfl
        | true => cases reading.getItem "yr" <;> rfl
  rw [hassoc]
  simp only [isOk_bind, isOk_ite]

theorem isOk_readUsage (u : Loop) (reading : Json) :
    (u.readUsage year month deviceType reading).isOk = true ↔
      Proper year month deviceType reading := by
  rw [Loop.readUsage_eq, isOk_ofMonth, Proper]
  have hbranch : ∀ u : Json → Loop, (do
      let dom ← reading.getItem "dom"
      if isMetered deviceType then (u dom).addReading year month reading
      else return u dom).isOk = true ↔
        (∃ dom, reading.getItem "dom" = .ok dom) ∧
          (isMetered deviceType = true → ∀ (c : Counter) (ws : Json),
            reading.getItem c.key = .ok ws →
              (ws.div (60 * 60 * 1000)).isOk = true) := by
    intro u
    simp only [isOk_bind, isOk_ite]
    constructor
    · intro h
      obtain ⟨dom, hdom, h⟩ := h
      refine ⟨⟨dom, hdom⟩, fun htype c => isOk_readKWh.mp ?_⟩
      exact (isOk_addReading _ hdom).mp (h htype) c
    · intro h
      obtain ⟨⟨dom, hdom⟩, h⟩ := h
      refine ⟨dom, hdom, fun htype => (isOk_addReading _ hdom).mpr ?_⟩
      exact fun c => isOk_readKWh.mpr (h htype c)
  rw [hbranch fun dom => { u with lastDom := dom }]

/-! ## What a row is the sum of -/

/-- The readings whose amounts are taken. -/
def taken (year month : Int) (deviceType : String) (readings : List Json) :
    List Json :=
  readings.filter fun reading =>
    isMetered deviceType &&
      (isOfMonth year month reading).toOption.getD false

namespace Counter

def kWh (c : Counter) (reading : Json) : Number :=
  (readKWh reading c.key).toOption.getD (.int 0)

/-- One after the other, from 0. -/
def sum (c : Counter) (readings : List Json) : Number :=
  readings.foldl (fun x reading => x + c.kWh reading) (.int 0)

/-- The second-last entry of a row, or its last. -/
def cell (c : Counter) (row : List Json) : Option Json :=
  match c with
  | .boosted => row.reverse[1]?
  | .diverted => row.reverse[0]?

def dailyKWh : Counter → Loop → Number
  | .boosted, u => u.dailyBoostedKWh
  | .diverted, u => u.dailyDivertedKWh

def totalKWh : Counter → Loop → Number
  | .boosted, u => u.totalBoostedKWh
  | .diverted, u => u.totalDivertedKWh

theorem kWh_eq (c : Counter) {reading : Json} {x : Number}
    (h : readKWh reading c.key = .ok x) : c.kWh reading = x := by
  rw [kWh, h]
  rfl

theorem sum_concat (c : Counter) (readings : List Json) (reading : Json) :
    c.sum (readings ++ [reading]) = c.sum readings + c.kWh reading := by
  rw [sum, List.foldl_append]
  rfl

end Counter

/-- The rows have these runs of readings in them, and the daily amounts the
last one. -/
structure Loop.Holds (u : Loop) (runs : List (List Json)) (run : List Json) :
    Prop where
  header : u.exportData ≠ []
  written : ∀ c : Counter, u.exportData.tail.map c.cell =
    runs.map fun run => some (.num (c.sum run))
  daily : ∀ c : Counter, c.dailyKWh u = c.sum run
  total : ∀ c : Counter, c.totalKWh u = c.sum (runs.flatten ++ run)

theorem holds_start : Loop.Holds {} [] [] where
  header := by
    intro h
    cases h
  written := fun _ => rfl
  daily := fun c => by cases c <;> rfl
  total := fun c => by cases c <;> rfl

section Holds

variable {u u' : Loop} {runs : List (List Json)} {run : List Json}
  {reading : Json}

theorem Loop.Holds.append (h : u.Holds runs run) {row : List Json}
    (hrow : ∀ c : Counter, c.cell row = some (.num (c.dailyKWh u)))
    (c : Counter) :
    (u.exportData ++ [row]).tail.map c.cell =
      (runs ++ [run]).map fun run => some (.num (c.sum run)) := by
  rw [List.tail_append_of_ne_nil h.header, List.map_append, h.written c,
    List.map_append, List.map_singleton, List.map_singleton, hrow c,
    h.daily c]

theorem Loop.Holds.note (h : u.Holds runs run) (dom : Json) :
    Loop.Holds { u with lastDom := dom } runs run := by
  refine ⟨h.header, h.written, fun c => ?_, fun c => ?_⟩
  · rw [← h.daily c]
    cases c <;> rfl
  · rw [← h.total c]
    cases c <;> rfl

theorem Loop.Holds.post (h : u.Holds runs run) {diverted boosted : Number}
    (hdiverted : readKWh reading "h1d" = .ok diverted)
    (hboosted : readKWh reading "h1b" = .ok boosted) :
    Loop.Holds
      { u with
        totalDivertedKWh := u.totalDivertedKWh + diverted
        totalBoostedKWh := u.totalBoostedKWh + boosted
        dailyDivertedKWh := u.dailyDivertedKWh + diverted
        dailyBoostedKWh := u.dailyBoostedKWh + boosted }
      runs (run ++ [reading]) := by
  refine ⟨h.header, h.written, fun c => ?_, fun c => ?_⟩
  · rw [Counter.sum_concat, ← h.daily c]
    cases c with
    | boosted => rw [Counter.boosted.kWh_eq hboosted]; rfl
    | diverted => rw [Counter.diverted.kWh_eq hdiverted]; rfl
  · rw [← List.append_assoc, Counter.sum_concat, ← h.total c]
    cases c with
    | boosted => rw [Counter.boosted.kWh_eq hboosted]; rfl
    | diverted => rw [Counter.diverted.kWh_eq hdiverted]; rfl

theorem Loop.Holds.close (h : u.Holds runs run) (year month dom : Json) :
    Loop.Holds
      { u with
        exportData := u.exportData ++
          [[year, month, u.currentDom, .num u.dailyBoostedKWh,
            .num u.dailyDivertedKWh]]
        currentDom := dom
        dailyBoostedKWh := .int 0
        dailyDivertedKWh := .int 0 }
      (runs ++ [run]) [] := by
  refine ⟨List.append_ne_nil_of_left_ne_nil h.header _,
    h.append fun c => by cases c <;> rfl, fun c => by cases c <;> rfl,
    fun c => ?_⟩
  rw [List.flatten_append, List.flatten_singleton, List.append_nil,
    ← h.total c]
  cases c <;> rfl

/-- A round takes a reading into the run, or leaves it, and may close the
run. -/
theorem Loop.Holds.round (h : u.Holds runs run)
    (hround : Loop.Round year month deviceType u reading u') :
    ∃ runs' run', u'.Holds runs' run' ∧
      runs'.flatten ++ run' =
        runs.flatten ++ run ++ taken year month deviceType [reading] := by
  cases hround with
  | other hmonth =>
      refine ⟨runs, run, h, ?_⟩
      simp [taken, hmonth, Except.toOption]
  | noted hmonth hdom htype =>
      refine ⟨runs, run, h.note _, ?_⟩
      simp [taken, htype]
  | @added dom diverted boosted hmonth hdom htype hdiverted hboosted =>
      have htaken : taken year month deviceType [reading] = [reading] := by
        simp [taken, htype, hmonth, Except.toOption]
      have hposted := (h.note dom).post hdiverted hboosted
      rw [htaken, Loop.addAmounts]
      dsimp only
      split
      · exact ⟨runs, _, hposted, (List.append_assoc _ _ _).symm⟩
      · refine ⟨_, [], hposted.close (.ofInt year) (.ofInt month) dom, ?_⟩
        rw [List.flatten_append, List.flatten_singleton, List.append_nil,
          List.append_assoc]

theorem Loop.Holds.readings (h : u.Holds runs run) {readings : List Json}
    (hloop : readings.foldlM (Loop.readUsage year month deviceType) u =
      .ok u') :
    ∃ runs' run', u'.Holds runs' run' ∧
      runs'.flatten ++ run' =
        runs.flatten ++ run ++ taken year month deviceType readings := by
  induction readings generalizing u runs run with
  | nil =>
      cases hloop
      exact ⟨runs, run, h, (List.append_nil _).symm⟩
  | cons reading readings ih =>
      rw [List.foldlM_cons] at hloop
      obtain ⟨u₁, hround, hloop⟩ := ok_of_bind_ok hloop
      obtain ⟨runs₁, run₁, h₁, htaken₁⟩ :=
        h.round (Loop.readUsage_eq_ok_iff.mp hround)
      obtain ⟨runs', run', h', htaken⟩ := ih h₁ hloop
      refine ⟨runs', run', h', ?_⟩
      rw [htaken, htaken₁, List.append_assoc]
      exact congrArg _ (List.filter_append [reading] readings).symm

end Holds

/-! ## The file -/

/-- The file made of a device's entry, if there is no exception on the
way. -/
def exportOf (year month : Int) (device : Device) (usageData : Json) :
    Except Exception Export := do
  let readings ← usageData.iter
  let u ← readings.foldlM (Loop.readUsage year month device.deviceType) {}
  let _ ← u.totalBoostedKWh.round
  let _ ← u.totalDivertedKWh.round
  return { serialNumber := device.serialNumber
           fileName := device.fileName year month
           rows := u.exportLast.exportData }

variable {device : Device} {usageData : Json} {file : Export}

theorem exportOf_eq_ok (h : exportOf year month device usageData = .ok file) :
    ∃ readings u, usageData.iter = .ok readings ∧
      readings.foldlM (Loop.readUsage year month device.deviceType) {} =
        .ok u ∧
      file = { serialNumber := device.serialNumber
               fileName := device.fileName year month
               rows := u.exportLast.exportData } := by
  obtain ⟨readings, hiter, h⟩ := ok_of_bind_ok h
  obtain ⟨u, hloop, h⟩ := ok_of_bind_ok h
  obtain ⟨-, -, h⟩ := ok_of_bind_ok h
  obtain ⟨-, -, h⟩ := ok_of_bind_ok h
  cases h
  exact ⟨readings, u, hiter, hloop, rfl⟩

/-- The entry is a list of readings that the loop can go over, and what they
add up to is finite, so that it can be rounded to be printed. -/
def Legible (year month : Int) (deviceType : String) (usageData : Json) :
    Prop :=
  ∃ readings, usageData.iter = .ok readings ∧
    (∀ reading ∈ readings, Proper year month deviceType reading) ∧
      ∀ c : Counter,
        (c.sum (taken year month deviceType readings)).rat?.isSome = true

/-- These are the entries that have a file made of them. -/
theorem isOk_exportOf :
    (exportOf year month device usageData).isOk = true ↔
      Legible year month device.deviceType usageData := by
  have hround (x : Number) : x.round.isOk = true ↔ x.rat?.isSome = true := by
    rw [x.isOk_round]
  rw [exportOf, isOk_bind, Legible]
  refine exists_congr fun readings => and_congr_right fun _ => ?_
  rw [← isOk_foldlM isOk_readUsage readings {}, isOk_bind, isOk_iff]
  have htotal (u : Loop) (hloop : readings.foldlM
      (Loop.readUsage year month device.deviceType) {} = .ok u)
      (c : Counter) :
      c.sum (taken year month device.deviceType readings) =
        c.totalKWh u := by
    obtain ⟨runs, run, hholds, htaken⟩ := holds_start.readings hloop
    rw [hholds.total c, htaken]
    rfl
  constructor
  · intro h
    obtain ⟨u, hloop, h⟩ := h
    obtain ⟨boosted, hboosted, h⟩ := isOk_bind.mp h
    obtain ⟨diverted, hdiverted, -⟩ := isOk_bind.mp h
    refine ⟨⟨u, hloop⟩, fun c => ?_⟩
    rw [htotal u hloop c, ← hround]
    cases c with
    | boosted => exact isOk_iff.mpr ⟨boosted, hboosted⟩
    | diverted => exact isOk_iff.mpr ⟨diverted, hdiverted⟩
  · intro h
    obtain ⟨⟨u, hloop⟩, h⟩ := h
    simp only [htotal u hloop, ← hround] at h
    obtain ⟨boosted, hboosted⟩ := isOk_iff.mp (h .boosted)
    obtain ⟨diverted, hdiverted⟩ := isOk_iff.mp (h .diverted)
    exact ⟨u, hloop, isOk_bind.mpr
      ⟨boosted, hboosted, isOk_bind.mpr ⟨diverted, hdiverted, rfl⟩⟩⟩

/-- The same in a row, but for the digits of an amount. -/
def Shows : Json → Cell → Prop
  | .str s, .text t => s = t
  | .num x, .int n => x.rat? = some (n : ℚ)
  | .num _, .float _ => True
  | _, _ => False

theorem shows_ofInt (n : Int) : Shows (.ofInt n) (.int n) := rfl

theorem eq_of_shows {i j : Json} {n m : Int} (hi : Shows i (.int n))
    (hj : Shows j (.int m)) : i.eq j = decide (n = m) := by
  cases i with
  | num x =>
      cases j with
      | num y =>
          rw [Json.eq_num, Number.eq_of_rat? hi hj]
          exact decide_eq_decide.mpr Int.cast_inj
      | _ => cases hj
  | _ => cases hi

/-- The item has the dates of the reading. -/
structure Dates (item : Json) (r : Reading) : Prop where
  mon : ∃ mon, item.getItem "mon" = .ok mon ∧ Shows mon (.int r.mon)
  yr : ∃ yr, item.getItem "yr" = .ok yr ∧ Shows yr (.int r.yr)
  dom : ∃ dom, item.getItem "dom" = .ok dom ∧ Shows dom (.int r.dom)

structure Loop.Follows (u : Loop) (v : Usage) : Prop where
  rows : List.Forall₂ (List.Forall₂ Shows) u.exportData v.exportData
  currentDom : Shows u.currentDom (.int v.currentDom)
  lastDom : Shows u.lastDom (.int v.lastDom)

theorem follows_start : Loop.Follows {} { exportData := [header] } where
  rows := by
    refine .cons ?_ .nil
    refine .cons rfl (.cons rfl (.cons rfl (.cons rfl (.cons rfl .nil))))
  currentDom := shows_ofInt 1
  lastDom := shows_ofInt 1

theorem isOfMonth_eq_of_dates (year month : Int) {item : Json} {r : Reading}
    (h : Dates item r) :
    isOfMonth year month item =
      .ok (decide (r.mon = month ∧ r.yr = year)) := by
  obtain ⟨mon, hmon, hshows⟩ := h.mon
  obtain ⟨yr, hyr, hshows'⟩ := h.yr
  rw [isOfMonth, hmon, ok_bind, hyr, ok_bind,
    eq_of_shows hshows (shows_ofInt month),
    eq_of_shows hshows' (shows_ofInt year), Bool.decide_and]
  cases decide (r.mon = month) <;> rfl

theorem Usage.readUsage_of_inMonth {v : Usage} {r : Reading}
    (h : r.mon = month ∧ r.yr = year) :
    v.readUsage year month deviceType r =
      if isMetered deviceType then
        ({ v with lastDom := r.dom } : Usage).addReading year month r
      else { v with lastDom := r.dom } := by
  rw [Usage.readUsage, if_pos h, isMetered]
  by_cases hzappi : deviceType = "zappi"
  · simp [hzappi]
  · simp [hzappi]

theorem Loop.Follows.addAmounts {u : Loop} {v : Usage} (h : u.Follows v)
    {dom : Json} {r : Reading} (hdom : Shows dom (.int r.dom))
    (diverted boosted : Number) :
    (u.addAmounts year month dom diverted boosted).Follows
      (v.addReading year month r) := by
  rw [Loop.addAmounts, Usage.addReading]
  dsimp only
  rw [eq_of_shows h.currentDom hdom]
  by_cases hday : v.currentDom = r.dom
  · rw [if_pos (decide_eq_true hday), if_neg (not_not.mpr hday)]
    exact ⟨h.rows, h.currentDom, h.lastDom⟩
  · rw [if_neg fun h => hday (of_decide_eq_true h), if_pos hday]
    refine ⟨List.rel_append h.rows (.cons ?_ .nil), hdom, h.lastDom⟩
    exact .cons rfl (.cons rfl (.cons h.currentDom
      (.cons trivial (.cons trivial .nil))))

theorem Loop.Follows.readUsage {u u' : Loop} {v : Usage} {item : Json}
    {r : Reading} (h : u.Follows v) (hdates : Dates item r)
    (hround : u.readUsage year month deviceType item = .ok u') :
    u'.Follows (v.readUsage year month deviceType r) := by
  have hmonth := isOfMonth_eq_of_dates year month hdates
  obtain ⟨dom, hdom, hshows⟩ := hdates.dom
  have hnoted : Loop.Follows { u with lastDom := dom }
      { v with lastDom := r.dom } := ⟨h.rows, h.currentDom, hshows⟩
  cases Loop.readUsage_eq_ok_iff.mp hround with
  | other hof =>
      rw [hmonth, Except.ok.injEq] at hof
      rw [Usage.readUsage, if_neg (of_decide_eq_false hof)]
      exact h
  | noted hof hdom' htype =>
      rw [hmonth, Except.ok.injEq] at hof
      rw [hdom] at hdom'
      cases hdom'
      rw [Usage.readUsage_of_inMonth (of_decide_eq_true hof), htype]
      exact hnoted
  | added hof hdom' htype hdiverted hboosted =>
      rw [hmonth, Except.ok.injEq] at hof
      rw [hdom] at hdom'
      cases hdom'
      rw [Usage.readUsage_of_inMonth (of_decide_eq_true hof), htype]
      exact hnoted.addAmounts hshows _ _

/-- For readings with whole numbers for their dates the rows are those of
`deviceUsage`, but for the digits of the amounts. -/
theorem exportOf_shows {items : List Json} {readings : List Reading}
    (hiter : usageData.iter = .ok items)
    (hdates : List.Forall₂ Dates items readings)
    (h : exportOf year month device usageData = .ok file) :
    List.Forall₂ (List.Forall₂ Shows) file.rows
      (deviceUsage year month device.deviceType readings).exportData := by
  obtain ⟨items', u, hiter', hloop, rfl⟩ := exportOf_eq_ok h
  rw [hiter] at hiter'
  cases hiter'
  have hfollows := foldlM_rel Loop.Follows.readUsage hdates follows_start hloop
  refine List.rel_append hfollows.rows (.cons ?_ .nil)
  exact .cons hfollows.lastDom (.cons trivial (.cons trivial .nil))

end SmartHome.Myenergi
