import SmartHome.Proofs.Binding

/-!
# Whether a user action reaches anybody

Whether a command goes out is decided in two places. When the action is
initiated, `IsGroupBound` looks through the whole table for a multicast
entry, whatever its endpoint and cluster, and the answer goes along as
`IsGroup`. When the manager calls the handler for a matching entry, a
unicast entry is passed over if there was a multicast one. That is how the
firmware is meant to work, "writing the groupcast table on the devices
blocks sending unicast commands", and it has a price: a multicast entry for
another endpoint or another cluster silences the unicast entries too.
`silenced_by_group` is such a table.

Where the entries that match are the ones `IsGroup` asks for, the command
goes out. `Outstanding` follows one of them through the run: until a request
was made of the SDK its data is still scheduled, or the manager still owes
the call.
-/

namespace SmartHome.Binding

open Machine LightSwitch

variable {matching : EndpointId → ClusterId → EmberBindingTableEntry → Bool}

/-! ## User actions -/

inductive UserAction where
  | switch (mAction : Action)
  | changeBrightness
deriving DecidableEq, Repr

def UserAction.clusterId : UserAction → ClusterId
  | .switch _ => OnOff.Id
  | .changeBrightness => LevelControl.Id

def System.act (s : System) : UserAction → System
  | .switch mAction => s.initiateActionSwitch mAction true
  | .changeBrightness => s.dimmerChangeBrightness true

def System.actionData (s : System) : UserAction → BindingData
  | .switch mAction =>
      actionSwitchData s.bindingTable s.mLightSwitchEndpoint mAction
  | .changeBrightness =>
      changeBrightnessData s.bindingTable s.mLightSwitchEndpoint
        (nextBrightness s.sBrightness)

/-- Both actions fill in the data in the same way, and with a command that
the handler knows. -/
theorem actionData_spec (s : System) (action : UserAction) :
    (s.actionData action).endpointId = s.mLightSwitchEndpoint ∧
      (s.actionData action).clusterId = action.clusterId ∧
      (s.actionData action).isGroup = isGroupBound s.bindingTable ∧
      ∃ command, (s.actionData action).command? = some command := by
  cases action with
  | switch mAction => cases mAction <;> exact ⟨rfl, rfl, rfl, _, rfl⟩
  | changeBrightness => exact ⟨rfl, rfl, rfl, _, rfl⟩

theorem scheduled_act (s : System) (action : UserAction) :
    (s.act action).scheduled = s.scheduled ++ [s.actionData action] := by
  cases action with
  | switch mAction => rfl
  | changeBrightness => rfl

theorem bindingTable_act (s : System) (action : UserAction) :
    (s.act action).bindingTable = s.bindingTable := by
  cases action with
  | switch mAction => rfl
  | changeBrightness => rfl

/-- The run that one user action starts on a device whose brightness and flag
are whatever earlier actions left. -/
def System.afterUserAction
    (matching : EndpointId → ClusterId → EmberBindingTableEntry → Bool)
    (bindingTable : List EmberBindingTableEntry)
    (mLightSwitchEndpoint : EndpointId) (sBrightness : UInt16)
    (mCaseSessionRecovered : Bool) (action : UserAction)
    (inputs : List Input) : System :=
  let start : System :=
    { bindingTable, mLightSwitchEndpoint, sBrightness, mCaseSessionRecovered }
  run (step matching) (start.act action) inputs

/-- The table holds an entry of the kind that `IsGroupBound` decides for,
and it matches. -/
def Reaches (matching : EndpointId → ClusterId → EmberBindingTableEntry → Bool)
    (bindingTable : List EmberBindingTableEntry) (endpointId : EndpointId)
    (clusterId : ClusterId) : Prop :=
  (∃ e ∈ bindingTable, e.type = .multicast ∧
      matching endpointId clusterId e = true) ∨
    ((∀ e ∈ bindingTable, e.type ≠ .multicast) ∧
      ∃ e ∈ bindingTable, e.type = .unicast ∧
        matching endpointId clusterId e = true)

theorem isGroupBound_eq_true {bindingTable : List EmberBindingTableEntry} :
    isGroupBound bindingTable = true ↔
      ∃ e ∈ bindingTable, e.type = .multicast := by
  simp [isGroupBound]

theorem handler_of_reaches {s : System} {action : UserAction}
    (h : Reaches matching s.bindingTable s.mLightSwitchEndpoint
      action.clusterId) :
    ∃ e ∈ s.bindingTable,
      matching (s.actionData action).endpointId
          (s.actionData action).clusterId e = true ∧
        (lightSwitchChangedHandler e (e.type == .unicast)
          (some (s.actionData action))).isSome = true := by
  obtain ⟨hendpoint, hcluster, hgroup, command, hcommand⟩ :=
    actionData_spec s action
  rw [hendpoint, hcluster]
  rcases h with ⟨e, he, htype, hmatch⟩ | ⟨hnone, e, he, htype, hmatch⟩
  · have hbound : isGroupBound s.bindingTable = true :=
      isGroupBound_eq_true.mpr ⟨e, he, htype⟩
    refine ⟨e, he, hmatch, ?_⟩
    rw [handler_multicast htype, hgroup, hbound, hcommand]
    rfl
  · have hbound : isGroupBound s.bindingTable = false := by
      refine eq_false_of_ne_true fun hb => ?_
      obtain ⟨e', he', htype'⟩ := isGroupBound_eq_true.mp hb
      exact hnone e' he' htype'
    refine ⟨e, he, hmatch, ?_⟩
    rw [handler_unicast htype, hgroup, hbound, hcommand]
    rfl

/-! ## One entry, until its request is made -/

def Occurrence.IsRequest : Occurrence → Prop
  | .invoked _ | .groupInvoked _ _ | .refused _ => True
  | _ => False

def Occurrence.isSent : Occurrence → Bool
  | .invoked _ | .groupInvoked _ _ => true
  | _ => false

theorem Occurrence.IsQuiet.isRequest {o : Occurrence} (h : o.IsQuiet) :
    o.IsRequest := by
  cases o with
  | groupInvoked | refused => trivial
  | notified | invoked | succeeded | failed => exact absurd h id

/-- The command for the entry `e` is on its way. -/
structure Outstanding (e : EmberBindingTableEntry) (data : BindingData)
    (s : System) : Prop where
  bound : e ∈ s.bindingTable
  waiting : s.scheduled = [data] ∨ (e, data) ∈ s.owed ∨
    ∃ o ∈ s.history, o.IsRequest

section Waiting

variable {e : EmberBindingTableEntry} {data : BindingData} {s s' : System}

theorem Outstanding.record (h : Outstanding e data s)
    (htable : s'.bindingTable = s.bindingTable)
    (hscheduled : s'.scheduled = s.scheduled)
    (howed : (e, data) ∈ s.owed → (e, data) ∈ s'.owed)
    (os : List Occurrence) (hhistory : s'.history = s.history ++ os) :
    Outstanding e data s' := by
  refine ⟨htable ▸ h.bound, ?_⟩
  rcases h.waiting with hw | hw | ⟨o, ho, hr⟩
  · exact Or.inl (hscheduled.trans hw)
  · exact Or.inr (Or.inl (howed hw))
  · refine Or.inr (Or.inr ⟨o, ?_, hr⟩)
    rw [hhistory]
    exact List.mem_append_left _ ho

theorem Outstanding.request (h : Outstanding e data s)
    (htable : s'.bindingTable = s.bindingTable) {o : Occurrence}
    (ho : o.IsRequest) (hhistory : s'.history = s.history ++ [o]) :
    Outstanding e data s' := by
  refine ⟨htable ▸ h.bound, Or.inr (Or.inr ⟨o, ?_, ho⟩)⟩
  rw [hhistory]
  exact List.mem_append_right _ (List.mem_singleton_self o)

theorem Outstanding.step
    (hmatch : matching data.endpointId data.clusterId e = true)
    (hrequest : (lightSwitchChangedHandler e (e.type == .unicast)
      (some data)).isSome = true) (h : Outstanding e data s) (i : Input) :
    Outstanding e data (System.step matching s i) := by
  apply System.step_cases s i (motive := Outstanding e data)
  case idle => exact h
  case notified =>
    intro next rest hs
    by_cases hw : s.scheduled = [data]
    · rw [hs] at hw
      obtain ⟨rfl, -⟩ := List.cons.inj hw
      refine ⟨h.bound, Or.inr (Or.inl ?_)⟩
      exact List.mem_append_right _ (List.mem_map.mpr
        ⟨e, List.mem_filter.mpr ⟨h.bound, hmatch⟩, rfl⟩)
    · refine ⟨h.bound, Or.inr ?_⟩
      rcases h.waiting.resolve_left hw with hw | ⟨o, ho, hr⟩
      · exact Or.inl (List.mem_append_left _ hw)
      · exact Or.inr ⟨o, List.mem_append_left _ ho, hr⟩
  case skipped =>
    intro position binding d ho hr
    refine h.record rfl rfl (fun hw => mem_eraseIdx_of_ne hw ho ?_) []
      (List.append_nil _).symm
    intro heq
    injection heq with he hd
    rw [he, hd, hr] at hrequest
    cases hrequest
  case logged =>
    intro position binding d o _ hquiet _
    exact h.request rfl hquiet.isRequest rfl
  case invoked =>
    intro position binding d c _ _
    exact h.request (o := .invoked c) rfl trivial rfl
  case succeeded =>
    intro position c _ _
    exact h.record rfl rfl id [.succeeded c] rfl
  case recovers =>
    intro position c _ _ _
    exact h.record rfl rfl (List.mem_append_left _)
      [.failed c .timeout, .notified .onInvokeCommandFailure c.dataRef]
      (by simp [System.notifyBoundClusterChanged])
  case failed =>
    intro position c aError _ _
    exact h.record rfl rfl id [.failed c aError] rfl

end Waiting

/-! ## The runs -/

/-- When every call owed has been made, a user action has handed the SDK a
command, and sent it unless the SDK refused it, provided that the table
reaches somebody: with a multicast entry that matches, or without any
multicast entry and with a unicast one that matches. -/
theorem action_sends (bindingTable : List EmberBindingTableEntry)
    (mLightSwitchEndpoint : EndpointId) (sBrightness : UInt16)
    (mCaseSessionRecovered : Bool) (action : UserAction)
    (inputs : List Input)
    (hreaches : Reaches matching bindingTable mLightSwitchEndpoint
      action.clusterId) :
    let s := System.afterUserAction matching bindingTable
      mLightSwitchEndpoint sBrightness mCaseSessionRecovered action inputs
    s.scheduled = [] → s.owed = [] →
      (∃ o ∈ s.history, o.IsRequest) ∧
        ((∀ r, .refused r ∉ s.history) →
          ∃ o ∈ s.history, o.isSent = true) := by
  intro s hscheduled howed
  let start : System :=
    { bindingTable, mLightSwitchEndpoint, sBrightness, mCaseSessionRecovered }
  obtain ⟨e, he, hmatch, hrequest⟩ := @handler_of_reaches _ start _ hreaches
  have hstart : Outstanding e (start.actionData action) (start.act action) :=
    ⟨(bindingTable_act start action).symm ▸ he,
      Or.inl (scheduled_act start action)⟩
  have hend : Outstanding e (start.actionData action) s :=
    run_inv (fun _ i h => h.step hmatch hrequest i) hstart inputs
  rcases hend.waiting with hw | hw | ⟨o, ho, hr⟩
  · rw [hscheduled] at hw
    cases hw
  · rw [howed] at hw
    exact absurd hw List.not_mem_nil
  · refine ⟨⟨o, ho, hr⟩, fun hrefused => ⟨o, ho, ?_⟩⟩
    cases o with
    | invoked | groupInvoked => rfl
    | refused r => exact absurd ho (hrefused r)
    | notified | succeeded | failed => exact absurd hr id

/-- `BindingManager::NotifyBoundClusterChanged` as it is meant to match. -/
def notifies (endpointId : EndpointId) (clusterId : ClusterId)
    (e : EmberBindingTableEntry) : Bool :=
  e.localEndpoint == endpointId && e.clusterId.all (· == clusterId)

/-- A group bound without a cluster is sent a level. -/
theorem action_sends_group :
    let group : EmberBindingTableEntry :=
      { type := .multicast, localEndpoint := 1, clusterId := none,
        groupId := 257 }
    let s := System.afterUserAction notifies [group] 1 251 false
      .changeBrightness [.work, .handler 0 .noError]
    ∃ o ∈ s.history, o.isSent = true := by
  intro group
  refine (action_sends [group] 1 251 false .changeBrightness
    [.work, .handler 0 .noError] ?_ rfl rfl).2 ?_
  · exact Or.inl ⟨group, List.mem_singleton_self _, rfl, by decide⟩
  · intro r hr
    have hhistory : Occurrence.refused r ∈
        [.notified .switchWorkerHandler
          (changeBrightnessData [group] 1 (nextBrightness 251)),
        .groupInvoked group (.moveToLevel 254)] := hr
    simp at hhistory

/-- A light is bound to the switch, and a group to another endpoint. The
`Toggle` asks for a group and finds none. -/
theorem silenced_by_group :
    let light : EmberBindingTableEntry :=
      { type := .unicast, localEndpoint := 1, clusterId := some OnOff.Id,
        nodeId := 1 }
    let group : EmberBindingTableEntry :=
      { type := .multicast, localEndpoint := 2, clusterId := some OnOff.Id,
        groupId := 257 }
    let s := System.afterUserAction notifies [light, group] 1 0 false
      (.switch .toggle) [.work, .handler 0 .noError]
    notifies 1 (UserAction.switch .toggle).clusterId light = true ∧
      s.scheduled = [] ∧ s.owed = [] ∧
      s.history = [.notified .switchWorkerHandler
        (actionSwitchData [light, group] 1 .toggle)] ∧
      ∀ o ∈ s.history, o.isSent = false := by
  decide

end SmartHome.Binding
