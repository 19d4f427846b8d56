import SmartHome.LightSwitch.Firmware
import SmartHome.Proofs.Dimmer
import SmartHome.Proofs.Service

/-!
# From the button to the bound devices

What the button is for is a word of commands, and what a bound device gets
is a request of the SDK. This file takes the one to the other through the
whole firmware.

The first half of the way is the calls of `LightSwitch`. Whatever the shell,
the table and the manager do meanwhile, the work that the button schedules
stands for the commands of the gestures, one for one and in order; only the
level of a step is not in the gesture. `levelled` supplies it: the level goes
up by three with every step, over all the gestures of the device's life, and
starts again after 252. `Sent` is the relation between the two halves that
every step keeps, and `gestures_sent` is what it says of a run.

The second half is `requests_accounted`. Where nothing interferes, no shell,
no change of the table and no time-out, the accounts close, and
`entries_reached` says what the requests are once nothing is outstanding:
every command of every gesture, for every entry of the table that is bound
for it, and to the kind of entry that the table calls for.
-/

namespace SmartHome.Firmware

open Machine
open LightSwitch (Config Effect Dispatch SwitchGestures)
open Binding (EmberBindingTableEntry EndpointId ClusterId Environment Service
  ServiceInput Shell BindingData Request callRequest)
open scoped List

/-! ## The commands of the gestures, with their levels -/

/-- The level after `n` steps. -/
def level (n : Nat) : Nat := 3 * (n % 85)

/-- The commands to send, from `n` level steps on. -/
def levelled : Nat → List Gesture.Command → List Binding.Command
  | _, [] => []
  | n, .toggle :: cs => .toggle :: levelled n cs
  | n, .on :: cs => .on :: levelled n cs
  | n, .off :: cs => .off :: levelled n cs
  | n, .moveToLevel :: cs =>
      .moveToLevel (UInt8.ofNat (level (n + 1))) :: levelled (n + 1) cs

def steps (cs : List Gesture.Command) : Nat := cs.count .moveToLevel

theorem levelled_append (n : Nat) (cs ds : List Gesture.Command) :
    levelled n (cs ++ ds) = levelled n cs ++ levelled (n + steps cs) ds := by
  induction cs generalizing n with
  | nil => rfl
  | cons c cs ih =>
      cases c with
      | toggle | on | off => simp [levelled, ih, steps]
      | moveToLevel =>
          simp only [List.cons_append, levelled, ih, steps,
            List.count_cons_self]
          rw [Nat.add_right_comm, Nat.add_assoc]

theorem level_succ (n : Nat) :
    level (n + 1) = if level n + 3 > 254 then 0 else level n + 3 := by
  unfold level
  split <;> omega

theorem nextBrightness_level {sBrightness : UInt16} {n : Nat}
    (h : sBrightness.toNat = level n) :
    (Binding.nextBrightness sBrightness).toNat = level (n + 1) := by
  have hlt : level n < 255 := by
    unfold level
    omega
  have hsum : (sBrightness + Binding.kOnePercentBrightnessApproximation).toNat
      = level n + 3 := by
    rw [UInt16.toNat_add, h]
    exact Nat.mod_eq_of_lt (by
      show level n + 3 < 65536
      omega)
  have hbig : sBrightness + Binding.kOnePercentBrightnessApproximation >
      Binding.kMaximumBrightness ↔ level n + 3 > 254 := by
    rw [gt_iff_lt, UInt16.lt_iff_toNat_lt, hsum]
    rfl
  rw [Binding.nextBrightness, level_succ]
  split
  next h => rw [if_pos (hbig.mp h)]; rfl
  next h => rw [if_neg (mt hbig.mpr h), hsum]

theorem toUInt8_level {sBrightness : UInt16} {n : Nat}
    (h : sBrightness.toNat = level n) :
    sBrightness.toUInt8 = UInt8.ofNat (level n) := by
  apply UInt8.toNat_inj.mp
  rw [UInt16.toNat_toUInt8, h, UInt8.toNat_ofNat']

/-! ## The calls -/

def buttonCommands (t : Service) : List (Option Binding.Command) :=
  (t.asked.filter (·.origin == .button)).map (·.data.command?)

/-- The work of the button stands for the commands `cs`. -/
structure Sent (cs : List Gesture.Command) (t : Service) : Prop where
  commands : buttonCommands t = (levelled 0 cs).map some
  brightness : t.handler.sBrightness.toNat = level (steps cs)

theorem Sent.ask {cs : List Gesture.Command} {t : Service} (h : Sent cs t)
    {i : ServiceInput} {handler : Binding.System} {data : BindingData}
    (c : Gesture.Command) (hasks : t.asks i = [⟨.button, data⟩])
    (hcommand : (levelled (steps cs) [c]).map some = [data.command?])
    (hbrightness : handler.sBrightness.toNat = level (steps (cs ++ [c]))) :
    Sent (cs ++ [c]) (t.ask i handler) := by
  have hasked : (t.ask i handler).asked = t.asked ++ [⟨.button, data⟩] := by
    rw [Service.ask, hasks]
  refine ⟨?_, hbrightness⟩
  rw [levelled_append, Nat.zero_add, List.map_append, hcommand, ← h.commands,
    buttonCommands, buttonCommands, hasked, List.filter_append,
    List.map_append]
  rfl

theorem steps_concat (cs : List Gesture.Command) (c : Gesture.Command) :
    steps (cs ++ [c]) = if c = .moveToLevel then steps cs + 1
      else steps cs := by
  rw [steps, List.count_append, List.count_singleton]
  split
  next h => rw [if_pos (eq_of_beq h)]; rfl
  next h => rw [if_neg (by simpa using h)]; rfl

section Calls

variable {shell : Shell}
  {matching : EndpointId → ClusterId → EmberBindingTableEntry → Bool}

theorem Sent.initiateActionSwitch {cs : List Gesture.Command} {t : Service}
    (h : Sent cs t) (action : LightSwitch.Action) :
    Sent (cs ++ (Effect.initiateActionSwitch action).command?.toList)
      (t.initiateActionSwitch action true) := by
  cases action with
  | toggle =>
      refine h.ask .toggle rfl rfl (h.brightness.trans ?_)
      rw [steps_concat, if_neg (by decide)]
  | on =>
      refine h.ask .on rfl rfl (h.brightness.trans ?_)
      rw [steps_concat, if_neg (by decide)]
  | off =>
      refine h.ask .off rfl rfl (h.brightness.trans ?_)
      rw [steps_concat, if_neg (by decide)]

theorem Sent.dimmerChangeBrightness {cs : List Gesture.Command} {t : Service}
    (h : Sent cs t) :
    Sent (cs ++ [.moveToLevel]) (t.dimmerChangeBrightness true) := by
  have hlevel := nextBrightness_level h.brightness
  refine h.ask .moveToLevel rfl ?_ (hlevel.trans ?_)
  · show [some (Binding.Command.moveToLevel _)] =
      [some (Binding.Command.moveToLevel _)]
    rw [Binding.changeBrightnessData, toUInt8_level hlevel]
  · rw [steps_concat, if_pos rfl]

theorem Sent.call {cs : List Gesture.Command} {t : Service} (h : Sent cs t)
    (effect : Effect) :
    Sent (cs ++ effect.command?.toList)
      (run (Service.step shell matching) t (call? true effect).toList) := by
  cases effect with
  | initiateActionSwitch action => exact h.initiateActionSwitch action
  | dimmerChangeBrightness => exact h.dimmerChangeBrightness
  | scheduleFactoryReset | startServer | factoryResetCanceled
  | openBasicCommissioningWindow =>
      show Sent (cs ++ []) t
      rwa [List.append_nil]

theorem Sent.calls {cs : List Gesture.Command} {t : Service} (h : Sent cs t)
    (effects : List Effect) :
    Sent (cs ++ effects.filterMap Effect.command?)
      (run (Service.step shell matching) t
        (effects.filterMap (call? true))) := by
  induction effects generalizing cs t with
  | nil => rwa [List.filterMap_nil, List.append_nil]
  | cons effect effects ih =>
      have hrest := ih (@Sent.call shell matching cs t h effect)
      rw [word_cons, word_cons, run_append, ← List.append_assoc]
      exact hrest

theorem brightness_step (s : Binding.System) (i : Binding.Input) :
    (s.step matching i).sBrightness = s.sBrightness := by
  apply Binding.System.step_cases s i
    (motive := fun s' => s'.sBrightness = s.sBrightness) <;> intros <;> rfl

theorem Sent.environment {cs : List Gesture.Command} {t : Service}
    (h : Sent cs t) (e : Environment) :
    Sent cs (t.environment shell matching e) := by
  cases e with
  | switchCommand argv =>
      rw [Service.environment, Service.switchCommand_eq]
      refine ⟨?_, h.brightness⟩
      have hshell : (t.asks (.environment (.switchCommand argv))).filter
          (·.origin == .button) = [] := by
        rw [Service.asks]
        cases (Binding.switchSentence argv).join <;> rfl
      rw [← h.commands, buttonCommands, buttonCommands, Service.ask,
        List.filter_append, hshell, List.append_nil]
  | bindingTable bindingTable => exact ⟨h.commands, h.brightness⟩
  | giveUp position =>
      rw [Service.environment, Service.giveUp]
      split
      next => exact h
      next => exact ⟨h.commands, h.brightness⟩
  | handler i =>
      exact ⟨h.commands, (congrArg UInt16.toNat
        (brightness_step t.handler i)).trans h.brightness⟩

end Calls

/-! ## The task -/

section Runs

variable {cfg : Config} {shell : Shell}
  {matching : EndpointId → ClusterId → EmberBindingTableEntry → Bool}

def initiated (s : LightSwitch.System) : List Gesture.Command :=
  s.dispatched.flatMap Dispatch.commands

theorem calls_step (s : LightSwitch.System) (i : AppInput) :
    ∃ effects : List Effect,
      calls cfg s i = effects.filterMap (call? i.allocated) ∧
        initiated (appStep cfg s i) =
          initiated s ++ effects.filterMap Effect.command? := by
  have hsame (h : (appStep cfg s i).dispatched = s.dispatched) :
      ∃ effects : List Effect,
        calls cfg s i = effects.filterMap (call? i.allocated) ∧
          initiated (appStep cfg s i) =
            initiated s ++ effects.filterMap Effect.command? := by
    refine ⟨[], ?_, ?_⟩
    · rw [calls, h, List.drop_length]
      rfl
    · rw [initiated, h]
      exact (List.append_nil _).symm
  by_cases hdispatch : i.input = .dispatch
  · rcases @LightSwitch.AppTask.dispatch_cases cfg s with
      ⟨-, hidle⟩ | ⟨e, q, t', effects, -, -, hnext⟩
    · refine hsame ?_
      rw [appStep, hdispatch]
      exact congrArg LightSwitch.System.dispatched hidle
    · have hd : (appStep cfg s i).dispatched =
          s.dispatched ++ [⟨e, effects⟩] := by
        rw [appStep, hdispatch]
        exact congrArg LightSwitch.System.dispatched hnext
      refine ⟨effects, ?_, ?_⟩
      · rw [calls, hd, List.drop_left, List.flatMap_singleton]
      · rw [initiated, hd, List.flatMap_append, List.flatMap_singleton]
        rfl
  · exact hsame (LightSwitch.step_frame cfg s hdispatch).2.2

/-- `Platform::New` finds memory while the input is handled. -/
def Allocates (_ : LightSwitch.System) (i : AppInput) : Prop :=
  i.allocated = true

/-- The same, and the switch button and the dimmer timers come in order. -/
def InOrder (s : LightSwitch.System) (i : AppInput) : Prop :=
  LightSwitch.SwitchInOrder s i.input ∧ Allocates s i

instance : DecidableRel InOrder := fun _ _ =>
  inferInstanceAs (Decidable (_ ∧ _ = _))

theorem sent_after {buttonState : BitVec 32}
    {bindingTable : List EmberBindingTableEntry} {inputs : List Input}
    (h : Along (appStep cfg) Allocates (.boot cfg buttonState)
      (driven inputs)) :
    let x := after cfg shell matching buttonState bindingTable inputs
    Sent (initiated x.1) x.2 := by
  refine @run_feed_rel _ _ _ _ _ _ _ _ _ _ (fun s t => Sent (initiated s) t)
    ?_ ?_ _ ?_ _ h
  · intro s t i hs hi
    obtain ⟨effects, hcalls, hinitiated⟩ := @calls_step cfg s i
    rw [hcalls, show i.allocated = true from hi, hinitiated]
    exact hs.calls effects
  · intro s t e hs
    exact hs.environment e
  · exact ⟨rfl, rfl⟩

theorem switchInv_after (hfour : cfg.twoButtons = false)
    {buttonState : BitVec 32} {bindingTable : List EmberBindingTableEntry}
    {inputs : List Input}
    (h : Along (appStep cfg) InOrder (.boot cfg buttonState)
      (driven inputs)) :
    LightSwitch.SwitchInv
      (after cfg shell matching buttonState bindingTable inputs).1 := by
  rw [after, step, run_feed_fst]
  exact run_inv_along (fun s i hs hi => hs.step hfour hi.1)
    (LightSwitch.switchInv_boot cfg buttonState) h

end Runs

/-- In every run of the four-button build in order, whatever the shell, the
table, the manager and the bound devices do, what the dispatched events
initiate are gestures, and the work that was scheduled for the button is
theirs, command for command, with levels that go on from gesture to
gesture. -/
theorem gestures_sent (cfg : Config) (hfour : cfg.twoButtons = false)
    (shell : Shell)
    (matching : EndpointId → ClusterId → EmberBindingTableEntry → Bool)
    (buttonState : BitVec 32) (bindingTable : List EmberBindingTableEntry)
    (inputs : List Input)
    (h : Along (appStep cfg) InOrder (.boot cfg buttonState) (driven inputs))
    (hposts : (after cfg shell matching buttonState bindingTable
      inputs).1.task.failedPosts = 0) :
    let x := after cfg shell matching buttonState bindingTable inputs
    SwitchGestures x.1 ∧
      buttonCommands x.2 = (levelled 0 (initiated x.1)).map some := by
  intro x
  have hallocates : Along (appStep cfg) Allocates (.boot cfg buttonState)
      (driven inputs) :=
    @Along.of_inv _ _ _ _ _ (fun _ => True) (fun _ _ _ _ => trivial)
      (fun _ _ _ hi => hi.2) _ trivial _ h
  exact ⟨(switchInv_after hfour h).gestures hposts,
    (sent_after hallocates).commands⟩

/-- A long press with one level step, while the manager is at work and the
table is written. -/
theorem gestures_sent_long_press :
    let app (i : LightSwitch.Input) : Input := .inl ⟨i, true⟩
    let x := after ⟨false, true, true, true⟩ .firstMatch (fun _ _ _ => true) 0
      [] [app (.buttons 2), app .dispatch, app (.timerExpiry .dimmerTrigger),
        app .dispatch, .inr (.handler .work), .inr (.bindingTable []),
        app (.timerExpiry .dimmer), app .dispatch, app (.buttons 0),
        app .dispatch]
    SwitchGestures x.1 ∧
      buttonCommands x.2 = [some .on, some (.moveToLevel 3)] := by
  refine And.imp_right (fun h => h.trans ?_)
    (gestures_sent _ rfl _ _ 0 [] _ (by decide) (by decide))
  decide

/-! ## The bound devices -/

def clusterOf : Binding.Command → ClusterId
  | .toggle | .on | .off => Binding.OnOff.Id
  | .moveToLevel _ => Binding.LevelControl.Id

/-- The kind of entry that is told anything, which the table decides. -/
def boundType (bindingTable : List EmberBindingTableEntry) :
    Binding.EmberBindingType :=
  if Binding.isGroupBound bindingTable then .multicast else .unicast

def addressed : Request → EmberBindingTableEntry × Binding.Command
  | .invokeCommandRequest c => (c.binding, c.command)
  | .invokeGroupCommandRequest binding command => (binding, command)

/-- Every entry of the table that a command is to reach, with the command. -/
def reached
    (matching : EndpointId → ClusterId → EmberBindingTableEntry → Bool)
    (bindingTable : List EmberBindingTableEntry) (command : Binding.Command) :
    List (EmberBindingTableEntry × Binding.Command) :=
  (bindingTable.filter fun e => e.type == boundType bindingTable &&
    matching kLightSwitchEndpointId (clusterOf command) e).map (·, command)

theorem clusterOf_command {data : BindingData} {command : Binding.Command}
    (h : data.command? = some command) :
    data.clusterId = clusterOf command := by
  unfold BindingData.command? at h
  split at h
  next hcluster =>
    rw [hcluster]
    split at h
    next => cases h; rfl
    next =>
      split at h
      next => cases h; rfl
      next =>
        split at h
        next => cases h; rfl
        next => cases h
  next =>
    split at h
    next hcluster =>
      rw [hcluster]
      split at h
      next => cases h; rfl
      next => cases h
    next => cases h

/-- Work as the button schedules it by this table, for this command. -/
structure ButtonWork (bindingTable : List EmberBindingTableEntry)
    (data : BindingData) (command : Binding.Command) : Prop where
  endpointId : data.endpointId = kLightSwitchEndpointId
  isGroup : data.isGroup = Binding.isGroupBound bindingTable
  command : data.command? = some command

variable {bindingTable : List EmberBindingTableEntry} {data : BindingData}
  {command : Binding.Command}

theorem ButtonWork.request (h : ButtonWork bindingTable data command)
    (e : EmberBindingTableEntry) :
    (callRequest (e, data)).map addressed =
      if e.type == boundType bindingTable then some (e, command)
      else none := by
  rw [callRequest, boundType, ← h.isGroup]
  cases htype : e.type with
  | unused =>
      rw [Binding.handler_unused htype]
      cases data.isGroup <;> rfl
  | unicast =>
      rw [Binding.handler_unicast htype, h.command]
      cases data.isGroup <;> simp [Binding.invoke, addressed]
  | multicast =>
      rw [Binding.handler_multicast htype, h.command]
      cases data.isGroup <;> simp [Binding.invoke, addressed]

theorem ButtonWork.requests
    {matching : EndpointId → ClusterId → EmberBindingTableEntry → Bool}
    (h : ButtonWork bindingTable data command) :
    ((Binding.Notice.calls matching ⟨bindingTable, data⟩).filterMap
      callRequest).map addressed = reached matching bindingTable command := by
  rw [Binding.Notice.calls, List.filterMap_map, List.map_filterMap, reached]
  dsimp only [Function.comp_apply]
  rw [h.endpointId, clusterOf_command h.command]
  simp only [h.request]
  rw [← List.filterMap_eq_map, List.filterMap_filter, List.filterMap_filter]
  congr 1
  funext e
  cases matching kLightSwitchEndpointId (clusterOf command) e <;>
    cases e.type == boundType bindingTable <;> rfl

/-- Beside the button only the network does anything: the shell is not used,
the table is not written, and the manager drops no call. Memory is found, and
no command times out. -/
def Undisturbed : Input → Prop
  | .inl i => i.allocated = true
  | .inr (.handler i) => ∀ position, i ≠ .onFailure position .timeout
  | .inr _ => False

/-- The service of a device on which nothing but the button is used. -/
structure Plain (bindingTable : List EmberBindingTableEntry) (t : Service) :
    Prop where
  table : t.handler.bindingTable = bindingTable
  endpoint : t.handler.mLightSwitchEndpoint = kLightSwitchEndpointId
  asked : ∀ a ∈ t.asked, a.origin = .button ∧
    ∃ command, ButtonWork bindingTable a.data command
  notices : ∀ n ∈ t.notices, n.bindingTable = bindingTable
  givenUp : t.givenUp = []
  /-- Nothing was sent again. -/
  told : t.handler.history.filterMap Binding.Occurrence.notified? =
    t.handler.history.filterMap Binding.Occurrence.work?

section Plain

variable {cfg : Config} {shell : Shell}
  {matching : EndpointId → ClusterId → EmberBindingTableEntry → Bool}
  {t : Service}

theorem Plain.ask (h : Plain bindingTable t) {i : ServiceInput}
    {handler : Binding.System} (hasks : t.asks i = [⟨.button, data⟩])
    (hdata : ButtonWork bindingTable data command)
    (hrest : handler.bindingTable = t.handler.bindingTable ∧
      handler.mLightSwitchEndpoint = t.handler.mLightSwitchEndpoint ∧
      handler.history = t.handler.history) :
    Plain bindingTable (t.ask i handler) := by
  obtain ⟨htable, hendpoint, hhistory⟩ := hrest
  refine ⟨htable.trans h.table, hendpoint.trans h.endpoint, ?_, h.notices,
    h.givenUp, ?_⟩
  · intro a ha
    rw [Service.ask, hasks] at ha
    rcases List.mem_append.mp ha with hold | hnew
    · exact h.asked a hold
    · cases List.mem_singleton.mp hnew
      exact ⟨rfl, command, hdata⟩
  · rw [Service.ask, hhistory]
    exact h.told

theorem Plain.call (h : Plain bindingTable t) {effect : Effect} :
    Plain bindingTable
      (run (Service.step shell matching) t (call? true effect).toList) := by
  have hgroup : Binding.isGroupBound t.handler.bindingTable =
      Binding.isGroupBound bindingTable := congrArg _ h.table
  cases effect with
  | initiateActionSwitch action =>
      cases action <;>
        exact h.ask rfl ⟨h.endpoint, hgroup, rfl⟩ ⟨rfl, rfl, rfl⟩
  | dimmerChangeBrightness =>
      exact h.ask rfl ⟨h.endpoint, hgroup, rfl⟩ ⟨rfl, rfl, rfl⟩
  | scheduleFactoryReset | startServer | factoryResetCanceled
  | openBasicCommissioningWindow => exact h

theorem Plain.calls (h : Plain bindingTable t) (effects : List Effect) :
    Plain bindingTable (run (Service.step shell matching) t
      (effects.filterMap (call? true))) := by
  induction effects generalizing t with
  | nil => exact h
  | cons effect effects ih =>
      rw [word_cons, run_append]
      exact ih h.call

theorem Plain.handlerStep (h : Plain bindingTable t) {i : Binding.Input}
    (hi : ∀ position, i ≠ .onFailure position .timeout) :
    Plain bindingTable (t.handlerStep matching i) := by
  have hframe : (t.handler.step matching i).bindingTable =
        t.handler.bindingTable ∧
      (t.handler.step matching i).mLightSwitchEndpoint =
        t.handler.mLightSwitchEndpoint := by
    apply Binding.System.step_cases t.handler i (motive := fun s' =>
      s'.bindingTable = t.handler.bindingTable ∧
        s'.mLightSwitchEndpoint = t.handler.mLightSwitchEndpoint) <;>
      intros <;> exact ⟨rfl, rfl⟩
  refine ⟨hframe.1.trans h.table, hframe.2.trans h.endpoint, h.asked, ?_,
    h.givenUp, ?_⟩
  · intro n hn
    rcases List.mem_append.mp hn with hold | hnew
    · exact h.notices n hold
    · obtain ⟨data, -, rfl⟩ := List.mem_map.mp hnew
      exact h.table
  · apply Binding.System.step_cases t.handler i (motive := fun s' =>
      s'.history.filterMap Binding.Occurrence.notified? =
        s'.history.filterMap Binding.Occurrence.work?)
    case idle => exact h.told
    case notified =>
      intro data rest _
      show (t.handler.history ++ [_]).filterMap _ =
        (t.handler.history ++ [_]).filterMap _
      rw [List.filterMap_append, List.filterMap_append, h.told]
      rfl
    case skipped => exact fun _ _ _ _ _ => h.told
    case logged =>
      intro _ _ _ o _ ho _
      dsimp only
      rw [List.filterMap_append, List.filterMap_append, h.told]
      cases o with
      | groupInvoked | refused => rfl
      | notified | invoked | succeeded | failed => exact absurd ho id
    case invoked | succeeded | failed =>
      intros
      dsimp only
      rw [List.filterMap_append, List.filterMap_append, h.told]
      rfl
    case recovers => exact fun position _ heq => absurd heq (hi position)

theorem plain_after {buttonState : BitVec 32} {inputs : List Input}
    (h : ∀ i ∈ inputs, Undisturbed i) : Plain bindingTable
      (after cfg shell matching buttonState bindingTable inputs).2 := by
  have hstep (x : State) (i : Input) (hx : Plain bindingTable x.2)
      (hi : Undisturbed i) :
      Plain bindingTable (step cfg shell matching x i).2 := by
    cases i with
    | inl i =>
        obtain ⟨effects, hcalls, -⟩ := @calls_step cfg x.1 i
        show Plain bindingTable (run _ x.2 (calls cfg x.1 i))
        rw [hcalls, show i.allocated = true from hi]
        exact hx.calls effects
    | inr e =>
        cases e with
        | handler i => exact hx.handlerStep hi
        | switchCommand | bindingTable | giveUp => exact absurd hi id
  have hinit : Plain bindingTable (boot cfg buttonState bindingTable).2 :=
    ⟨rfl, rfl, fun _ ha => absurd ha List.not_mem_nil,
      fun _ hn => absurd hn List.not_mem_nil, rfl, rfl⟩
  exact @run_inv_along _ _ _ (fun _ i => Undisturbed i)
    (fun x : State => Plain bindingTable x.2) hstep _ hinit inputs
    (.of_forall (fun i hi _ => h i hi) _)

theorem Plain.notices_eq (h : Plain bindingTable t)
    (hs : t.Accounted matching) (hscheduled : t.handler.scheduled = []) :
    t.notices = t.asked.map fun a => ⟨bindingTable, a.data⟩ := by
  have hdata : t.notices.map (·.data) = t.asked.map (·.data) := by
    rw [hs.told, h.told, ← hs.work, Binding.System.work, hscheduled,
      List.append_nil]
  have hnotices : t.notices =
      (t.notices.map (·.data)).map (Binding.Notice.mk bindingTable) := by
    rw [List.map_map]
    refine (List.map_id _).symm.trans (List.map_congr_left fun n hn => ?_)
    rw [Function.comp_apply, ← h.notices n hn]
    rfl
  rw [hnotices, hdata, List.map_map]
  rfl

/-- With nothing outstanding, the requests are for the entries that the
commands are to reach. -/
theorem Plain.reached (h : Plain bindingTable t) (hs : t.Accounted matching)
    {cs : List Gesture.Command} (hsent : Sent cs t)
    (hscheduled : t.handler.scheduled = []) (howed : t.handler.owed = []) :
    (t.handler.history.filterMap Binding.Occurrence.request?).map addressed ~
      (levelled 0 cs).flatMap (reached matching bindingTable) := by
  obtain ⟨gone, hgone, hrequests⟩ := hs.calls
  rw [howed, List.append_nil] at hgone
  rw [h.givenUp, List.filterMap_nil, List.append_nil] at hrequests
  have hbutton : t.asked.map (·.data.command?) =
      (levelled 0 cs).map some := by
    rw [← hsent.commands, buttonCommands, List.filter_eq_self.mpr]
    intro a ha
    rw [(h.asked a ha).1]
    rfl
  have hwork : (t.asked.flatMap fun a =>
      ((Binding.Notice.calls matching ⟨bindingTable, a.data⟩).filterMap
        callRequest).map addressed) =
      (t.asked.map (·.data.command?)).flatMap fun command =>
        command.toList.flatMap (Firmware.reached matching bindingTable) := by
    rw [List.flatMap_map]
    refine List.flatMap_congr fun a ha => ?_
    obtain ⟨-, command, hcommand⟩ := h.asked a ha
    rw [hcommand.requests, hcommand.command]
    exact (List.flatMap_singleton _ _).symm
  calc _ ~ (gone.filterMap callRequest).map addressed := hrequests.map _
    _ ~ ((t.notices.flatMap (·.calls matching)).filterMap callRequest).map
        addressed := (hgone.filterMap _).map _
    _ = t.asked.flatMap fun a =>
        ((Binding.Notice.calls matching ⟨bindingTable, a.data⟩).filterMap
          callRequest).map addressed := by
        rw [h.notices_eq hs hscheduled, List.flatMap_map,
          List.filterMap_flatMap, List.map_flatMap]
    _ = _ := by
        rw [hwork, hbutton, List.flatMap_map]
        refine List.flatMap_congr fun command _ => ?_
        exact List.flatMap_singleton _ _

end Plain

/-- A run in which only the button is used, memory is found, no call is
dropped and no command times out: once nothing is outstanding, the requests
that were made of the SDK are, up to their order, one for each command that
the task initiated and each entry of the table that is bound for it. If any
entry is for a group, only such entries count, and otherwise those for a
device. -/
theorem entries_reached (cfg : Config) (shell : Shell)
    (matching : EndpointId → ClusterId → EmberBindingTableEntry → Bool)
    (buttonState : BitVec 32) (bindingTable : List EmberBindingTableEntry)
    (inputs : List Input) (h : ∀ i ∈ inputs, Undisturbed i) :
    let x := after cfg shell matching buttonState bindingTable inputs
    x.2.handler.scheduled = [] → x.2.handler.owed = [] →
      (x.2.handler.history.filterMap
          Binding.Occurrence.request?).map addressed ~
        (levelled 0 (initiated x.1)).flatMap
          (reached matching bindingTable) := by
  intro x hscheduled howed
  have hallocates : Along (appStep cfg) Allocates (.boot cfg buttonState)
      (driven inputs) := by
    refine (@along_feed _ _ _ _ _ _ (calls cfg) (Service.step shell matching)
      ServiceInput.environment _ (boot cfg buttonState bindingTable) _).mp ?_
    refine .of_forall (fun i hi s => ?_) _
    cases i with
    | inl i => exact h _ hi
    | inr e => exact trivial
  have hs : x.2.Accounted matching :=
    run_feed_inv (fun t i ht => ht.step i)
      (Service.accounted_boot bindingTable kLightSwitchEndpointId) inputs
  exact (plain_after h).reached hs (sent_after hallocates) hscheduled howed

/-- A short press with two devices bound, one of them for another
endpoint. -/
theorem entries_reached_short_press :
    let app (i : LightSwitch.Input) : Input := .inl ⟨i, true⟩
    let device (endpoint : EndpointId) : EmberBindingTableEntry :=
      { type := .unicast, localEndpoint := endpoint, clusterId := none }
    let x := after ⟨false, true, true, true⟩ .firstMatch
      (fun endpoint _ e => e.localEndpoint == endpoint) 0
      [device 1, device 2] [app (.buttons 2), app .dispatch, app (.buttons 0),
        app .dispatch, .inr (.handler .work), .inr (.handler (.handler 0
          .noError))]
    (x.2.handler.history.filterMap Binding.Occurrence.request?).map
      addressed ~ [(device 1, .toggle)] := by
  intro app device x
  exact (entries_reached _ _ _ _ _ _ (by simp [Undisturbed, app]) (by decide)
    (by decide)).trans (by decide)

end SmartHome.Firmware
