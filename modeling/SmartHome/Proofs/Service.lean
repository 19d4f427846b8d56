import SmartHome.Binding.Service
import SmartHome.Machine.Buffer
import SmartHome.Proofs.Binding
import SmartHome.Proofs.Shell

/-!
# Nothing is lost between an action and the network

The binding handler is a pipeline with three buffers, and anybody may fill
the first one, rewrite the table the second is filled by, or empty the last
two in any order. What can be said of it whatever happens is a matter of
book-keeping: for each buffer, what went in is what came out and what is
still there.

The first is a FIFO, so there the account is one of lists, `asked_in_order`:
the work that was asked for is notified of in the order it was asked for.
From the other two things leave in any order, and the accounts are up to
order. `requests_accounted` says that the requests made of the SDK, those
whose call is still owed and those whose call was dropped are together what
the notifications called for, each by the table as it was then; a
notification of the second kind, which resends a command, is one like any
other. What a notification calls for is said by `calledFor`, a rule about the
entry and the data, which the handler has to follow.
-/

namespace SmartHome.Binding

open Machine
open LightSwitch (Action)
open scoped List

/-! ## Reading the records -/

def Occurrence.work? : Occurrence → Option BindingData
  | .notified .switchWorkerHandler data => some data
  | _ => none

/-- What the SDK was asked for, whether or not it took the request. -/
def Occurrence.request? : Occurrence → Option Request
  | .invoked c => some (.invokeCommandRequest c)
  | .groupInvoked binding command =>
      some (.invokeGroupCommandRequest binding command)
  | .refused r => some r
  | _ => none

def Occurrence.invoked? : Occurrence → Option Invocation
  | .invoked c => some c
  | _ => none

def Occurrence.answered? : Occurrence → Option Invocation
  | .succeeded c => some c
  | .failed c _ => some c
  | _ => none

def callRequest (call : EmberBindingTableEntry × BindingData) :
    Option Request :=
  lightSwitchChangedHandler call.1 (call.1.type == .unicast) (some call.2)

/-- The request that a call is for: a command for the device of a unicast
entry or for the group of a multicast one, if that is whom the data is
for. -/
def calledFor (call : EmberBindingTableEntry × BindingData) :
    Option Request :=
  match call.1.type, call.2.isGroup with
  | .unicast, false =>
      call.2.command?.map fun command =>
        .invokeCommandRequest ⟨call.1, command, call.2⟩
  | .multicast, true =>
      call.2.command?.map fun command =>
        .invokeGroupCommandRequest call.1 command
  | _, _ => none

theorem callRequest_eq_calledFor : callRequest = calledFor := by
  funext call
  obtain ⟨e, data⟩ := call
  simp only [callRequest, calledFor]
  cases htype : e.type with
  | unused => exact handler_unused htype _ data
  | multicast =>
      rw [handler_multicast htype]
      cases data.isGroup <;> rfl
  | unicast =>
      rw [handler_unicast htype]
      cases data.isGroup <;> rfl

/-- The calls that a notification makes the manager owe. -/
def Notice.calls
    (matching : EndpointId → ClusterId → EmberBindingTableEntry → Bool)
    (n : Notice) : List (EmberBindingTableEntry × BindingData) :=
  (n.bindingTable.filter (matching n.data.endpointId n.data.clusterId)).map
    (·, n.data)

/-- Work that is done and work that is not. -/
def System.work (s : System) : List BindingData :=
  s.history.filterMap Occurrence.work? ++ s.scheduled

/-! ## One step of the handler

What a step adds to the history, and what that has to do with what it takes
out of the buffers. -/

section Step

variable {matching : EndpointId → ClusterId → EmberBindingTableEntry → Bool}

theorem work_step (s : System) (i : Input) :
    (s.step matching i).work = s.work := by
  apply System.step_cases s i (motive := fun s' => s'.work = s.work)
  case idle => rfl
  case notified =>
    intro data rest hs
    simp [System.work, System.switchWorkerHandler,
      System.notifyBoundClusterChanged, Occurrence.work?, hs]
  case skipped =>
    intro position binding data _ _
    rfl
  case logged =>
    intro _ _ _ o _ ho _
    cases o with
    | groupInvoked | refused => simp [System.work, Occurrence.work?]
    | notified | invoked | succeeded | failed => exact absurd ho id
  case invoked | succeeded | recovers | failed =>
    intros
    simp [System.work, System.notifyBoundClusterChanged, Occurrence.work?]

/-- What a step does to the other two buffers, and what it adds to the
history: a request for each of the calls that went which leads to one, and a
notification for the calls that came. -/
structure Moved
    (matching : EndpointId → ClusterId → EmberBindingTableEntry → Bool)
    (s s' : System) (made : List (EmberBindingTableEntry × BindingData))
    (added : List Occurrence) : Prop where
  history : s'.history = s.history ++ added
  calls : Transfers s.owed s'.owed made
    ((added.filterMap Occurrence.notified?).flatMap fun data =>
      Notice.calls matching ⟨s.bindingTable, data⟩)
  requests : added.filterMap Occurrence.request? =
    made.filterMap callRequest
  commands : Transfers s.inFlight s'.inFlight
    (added.filterMap Occurrence.answered?)
    (added.filterMap Occurrence.invoked?)

theorem Moved.idle (s : System) : Moved matching s s [] [] :=
  ⟨(List.append_nil _).symm, .refl _, rfl, .refl _⟩

theorem Moved.notified (s : System) (notifier : Notifier)
    (data : BindingData) :
    Moved matching s (s.notifyBoundClusterChanged matching notifier data) []
      [.notified notifier data] := by
  refine ⟨rfl, ?_, rfl, .refl _⟩
  have hput := Transfers.put s.owed
    (Notice.calls matching ⟨s.bindingTable, data⟩)
  simpa [Occurrence.notified?, System.notifyBoundClusterChanged,
    Notice.calls, List.filterMap_cons] using hput

theorem Moved.called {s s' : System} {position : Nat}
    {call : EmberBindingTableEntry × BindingData} {added : List Occurrence}
    (ho : s.owed[position]? = some call)
    (howed : s'.owed = s.owed.eraseIdx position)
    (hhistory : s'.history = s.history ++ added)
    (hrequest : added.filterMap Occurrence.request? =
      (callRequest call).toList)
    (hnotified : added.filterMap Occurrence.notified? = [])
    (hanswered : added.filterMap Occurrence.answered? = [])
    (hinFlight : s'.inFlight =
      s.inFlight ++ added.filterMap Occurrence.invoked?) :
    Moved matching s s' [call] added := by
  refine ⟨hhistory, ?_, ?_, ?_⟩
  · rw [hnotified, howed]
    exact .take ho
  · rw [hrequest]
    cases hcall : callRequest call with
    | none => rw [List.filterMap_cons_none hcall]; rfl
    | some r => rw [List.filterMap_cons_some hcall]; rfl
  · rw [hanswered, hinFlight]
    exact .put _ _

theorem Moved.answered {s s' : System} {position : Nat} {c : Invocation}
    {o : Occurrence} (hc : s.inFlight[position]? = some c)
    (hinFlight : s'.inFlight = s.inFlight.eraseIdx position)
    (hhistory : s'.history = s.history ++ [o]) (howed : s'.owed = s.owed)
    (hanswered : [o].filterMap Occurrence.answered? = [c])
    (hrequest : [o].filterMap Occurrence.request? = [])
    (hnotified : [o].filterMap Occurrence.notified? = [])
    (hinvoked : [o].filterMap Occurrence.invoked? = []) :
    Moved matching s s' [] [o] := by
  refine ⟨hhistory, ?_, hrequest, ?_⟩
  · rw [howed, hnotified]
    exact .refl _
  · rw [hinFlight, hanswered, hinvoked]
    exact .take hc

theorem Moved.trans {s s' s'' : System}
    {made made' : List (EmberBindingTableEntry × BindingData)}
    {added added' : List Occurrence} (h : Moved matching s s' made added)
    (h' : Moved matching s' s'' made' added')
    (htable : s'.bindingTable = s.bindingTable) :
    Moved matching s s'' (made ++ made') (added ++ added') := by
  refine ⟨?_, ?_, ?_, ?_⟩
  · rw [h'.history, h.history, List.append_assoc]
  · rw [List.filterMap_append, List.flatMap_append]
    have hcalls := h'.calls
    rw [htable] at hcalls
    exact h.calls.trans hcalls
  · rw [List.filterMap_append, List.filterMap_append, h.requests, h'.requests]
  · rw [List.filterMap_append, List.filterMap_append]
    exact h.commands.trans h'.commands

theorem step_moved (s : System) (i : Input) :
    ∃ made added, Moved matching s (s.step matching i) made added := by
  cases i with
  | work =>
      rw [System.step]
      split
      next => exact ⟨_, _, .idle s⟩
      next data rest hs =>
        obtain ⟨hhistory, hcalls, hrequests, hcommands⟩ :=
          @Moved.notified matching { s with scheduled := rest }
            .switchWorkerHandler data
        exact ⟨_, _, hhistory, hcalls, hrequests, hcommands⟩
  | handler position ret =>
      rw [System.step]
      split
      next => exact ⟨_, _, .idle s⟩
      next binding data ho =>
        dsimp only
        split
        next hr =>
          exact ⟨_, _, .called ho rfl (List.append_nil _).symm
            (by rw [callRequest, hr]; rfl) rfl rfl (List.append_nil _).symm⟩
        next r hr =>
          unfold System.request
          split
          next =>
            cases r with
            | invokeCommandRequest c =>
                exact ⟨_, _, .called ho rfl rfl (by rw [callRequest, hr]; rfl)
                  rfl rfl rfl⟩
            | invokeGroupCommandRequest b c =>
                exact ⟨_, _, .called ho rfl rfl (by rw [callRequest, hr]; rfl)
                  rfl rfl (List.append_nil _).symm⟩
          next =>
            exact ⟨_, _, .called ho rfl rfl (by rw [callRequest, hr]; rfl) rfl
              rfl (List.append_nil _).symm⟩
  | onSuccess position =>
      rw [System.step]
      split
      next => exact ⟨_, _, .idle s⟩
      next c hc => exact ⟨_, _, .answered hc rfl rfl rfl rfl rfl rfl rfl⟩
  | onFailure position aError =>
      rw [System.step]
      split
      next => exact ⟨_, _, .idle s⟩
      next c hc =>
        rw [System.onInvokeCommandFailure]
        split
        next =>
          have hfailed : Moved matching s
              { s with
                inFlight := s.inFlight.eraseIdx position
                mCaseSessionRecovered := true
                history := s.history ++ [.failed c aError] } []
              [.failed c aError] :=
            .answered hc rfl rfl rfl rfl rfl rfl rfl
          exact ⟨_, _, hfailed.trans (.notified _ _ _) rfl⟩
        next => exact ⟨_, _, .answered hc rfl rfl rfl rfl rfl rfl rfl⟩

end Step

/-! ## Everything that happens to the handler -/

namespace Service

variable {shell : Shell}
  {matching : EndpointId → ClusterId → EmberBindingTableEntry → Bool}

/-- The three accounts. `gone` are the calls that the manager made or
dropped. -/
structure Accounted
    (matching : EndpointId → ClusterId → EmberBindingTableEntry → Bool)
    (s : Service) : Prop where
  work : s.handler.work = s.asked.map (·.data)
  told : s.notices.map (·.data) =
    s.handler.history.filterMap Occurrence.notified?
  calls : ∃ gone, gone ++ s.handler.owed ~ s.notices.flatMap (·.calls matching)
    ∧ s.handler.history.filterMap Occurrence.request? ++
        s.givenUp.filterMap callRequest ~ gone.filterMap callRequest
  commands : s.handler.history.filterMap Occurrence.answered? ++
      s.handler.inFlight ~
    s.handler.history.filterMap Occurrence.invoked?

theorem Accounted.ask {s : Service} (h : s.Accounted matching)
    (i : ServiceInput) {handler : System}
    (hscheduled : handler.scheduled =
      s.handler.scheduled ++ (s.asks i).map (·.data))
    (hrest : handler.owed = s.handler.owed ∧
      handler.inFlight = s.handler.inFlight ∧
      handler.history = s.handler.history) :
    (s.ask i handler).Accounted matching := by
  obtain ⟨howed, hinFlight, hhistory⟩ := hrest
  obtain ⟨hwork, htold, hcalls, hcommands⟩ := h
  refine ⟨?_, ?_, ?_, ?_⟩
  · rw [Service.ask, List.map_append, ← hwork, System.work, System.work,
      hhistory, hscheduled, List.append_assoc]
  · simpa only [Service.ask, hhistory] using htold
  · simpa only [Service.ask, howed, hhistory] using hcalls
  · simpa only [Service.ask, hinFlight, hhistory] using hcommands

theorem runEffects_eq (handler : System) (effects : List ShellEffect) :
    effects.foldl runEffect handler =
      { handler with
        scheduled := handler.scheduled ++ scheduledBy effects } := by
  induction effects generalizing handler with
  | nil =>
      show handler = { handler with scheduled := handler.scheduled ++ [] }
      rw [List.append_nil]
  | cons effect effects ih =>
      rw [List.foldl_cons, ih]
      cases effect with
      | scheduleWork data =>
          simp [runEffect, scheduledBy, ShellEffect.data?]
      | printCommandHelp | printBindingTable => rfl

theorem switchCommand_eq (shell : Shell) (s : Service) (argv : List String) :
    s.switchCommand shell argv = s.ask (.environment (.switchCommand argv))
      { s.handler with
        scheduled := s.handler.scheduled ++
          (s.asks (.environment (.switchCommand argv))).map (·.data) } := by
  have hasks : (s.asks (.environment (.switchCommand argv))).map (·.data) =
      scheduledBy (SwitchCommands.switchCommandHandler shell
        s.handler.mLightSwitchEndpoint argv).2 := by
    rw [scheduledBy_switchCommandHandler, asks]
    cases (switchSentence argv).join <;> rfl
  rw [switchCommand, runEffects_eq, hasks]

theorem Accounted.giveUp {s : Service} (h : s.Accounted matching)
    (position : Nat) : (s.giveUp position).Accounted matching := by
  unfold Service.giveUp
  split
  next => exact h
  next call hcall =>
    obtain ⟨hwork, htold, ⟨gone, hgone, hrequests⟩, hcommands⟩ := h
    refine ⟨hwork, htold, ⟨gone ++ [call], ?_, ?_⟩, hcommands⟩
    · have hclosed := (Transfers.take hcall).closes hgone
      rwa [List.append_nil] at hclosed
    · rw [List.filterMap_append, List.filterMap_append, ← List.append_assoc]
      exact hrequests.append_right _

theorem Accounted.handlerStep {s : Service} (h : s.Accounted matching)
    (i : Input) : (s.handlerStep matching i).Accounted matching := by
  obtain ⟨hwork, htold, ⟨gone, hgone, hrequests⟩, hcommands⟩ := h
  obtain ⟨made, added, hmoved⟩ := @step_moved matching s.handler i
  have hnotices : (s.handlerStep matching i).notices = s.notices ++
      (added.filterMap Occurrence.notified?).map
        (⟨s.handler.bindingTable, ·⟩) := by
    simp only [Service.handlerStep, hmoved.history, List.drop_left]
  refine ⟨?_, ?_, ⟨gone ++ made, ?_, ?_⟩, ?_⟩
  · exact (work_step s.handler i).trans hwork
  · show _ = (s.handler.step matching i).history.filterMap _
    rw [hmoved.history, hnotices, List.map_append, htold,
      List.filterMap_append, List.map_map]
    exact congrArg _ (List.map_id _)
  · rw [hnotices, List.flatMap_append, List.flatMap_map]
    exact hmoved.calls.closes hgone
  · show (s.handler.step matching i).history.filterMap _ ++ _ ~ _
    rw [hmoved.history, List.filterMap_append, hmoved.requests,
      List.filterMap_append]
    calc _ ~ s.handler.history.filterMap Occurrence.request? ++
          (s.givenUp.filterMap callRequest ++ made.filterMap callRequest) := by
          rw [List.append_assoc]
          exact List.perm_append_comm.append_left _
      _ ~ _ := by
          rw [← List.append_assoc]
          exact hrequests.append_right _
  · show (s.handler.step matching i).history.filterMap _ ++
      (s.handler.step matching i).inFlight ~
        (s.handler.step matching i).history.filterMap _
    rw [hmoved.history, List.filterMap_append, List.filterMap_append]
    exact hmoved.commands.closes hcommands

theorem Accounted.step {s : Service} (h : s.Accounted matching)
    (i : ServiceInput) : (s.step shell matching i).Accounted matching := by
  cases i with
  | initiateActionSwitch mAction allocated =>
      cases allocated with
      | true => exact h.ask _ rfl ⟨rfl, rfl, rfl⟩
      | false => exact h.ask _ (List.append_nil _).symm ⟨rfl, rfl, rfl⟩
  | dimmerChangeBrightness allocated =>
      cases allocated with
      | true => exact h.ask _ rfl ⟨rfl, rfl, rfl⟩
      | false => exact h.ask _ (List.append_nil _).symm ⟨rfl, rfl, rfl⟩
  | environment e =>
      cases e with
      | switchCommand argv =>
          rw [Service.step, Service.environment, switchCommand_eq]
          exact h.ask _ rfl ⟨rfl, rfl, rfl⟩
      | bindingTable bindingTable =>
          exact ⟨h.work, h.told, h.calls, h.commands⟩
      | giveUp position => exact h.giveUp position
      | handler i => exact h.handlerStep i

theorem accounted_boot (bindingTable : List EmberBindingTableEntry)
    (mLightSwitchEndpoint : EndpointId) :
    (boot bindingTable mLightSwitchEndpoint).Accounted matching :=
  ⟨rfl, rfl, ⟨[], .refl _, .refl _⟩, .refl _⟩

theorem accounted_after (bindingTable : List EmberBindingTableEntry)
    (mLightSwitchEndpoint : EndpointId) (inputs : List ServiceInput) :
    (after shell matching bindingTable mLightSwitchEndpoint
      inputs).Accounted matching :=
  run_inv (fun _ i h => h.step i) (accounted_boot _ _) inputs

theorem Accounted.requests {s : Service} (h : s.Accounted matching) :
    s.handler.history.filterMap Occurrence.request? ++
        s.givenUp.filterMap calledFor ++ s.handler.owed.filterMap calledFor ~
      (s.notices.flatMap (·.calls matching)).filterMap calledFor := by
  obtain ⟨gone, hgone, hrequests⟩ := h.calls
  rw [← callRequest_eq_calledFor]
  refine (hrequests.append_right _).trans ?_
  rw [← List.filterMap_append]
  exact hgone.filterMap callRequest

/-! ## Where a request comes from -/

/-- The data of a request was asked for, by a button or in the shell. -/
def AskedFor (s : Service) (data : BindingData) : Prop :=
  data ∈ s.asked.map (·.data)

theorem notified_concat {history : List Occurrence} {o : Occurrence}
    {data : BindingData}
    (h : data ∈ (history ++ [o]).filterMap Occurrence.notified?) :
    data ∈ history.filterMap Occurrence.notified? ∨
      o.notified? = some data := by
  rw [List.filterMap_append, List.mem_append] at h
  rcases h with h | h
  · exact Or.inl h
  · obtain ⟨o', ho', hdata⟩ := List.mem_filterMap.mp h
    rw [List.mem_singleton.mp ho'] at hdata
    exact Or.inr hdata

/-- A notification is of work that was scheduled or of a command that was in
flight. -/
theorem notified_step (s : System) (i : Input) :
    ∀ data ∈ (s.step matching i).history.filterMap Occurrence.notified?,
      data ∈ s.history.filterMap Occurrence.notified? ∨ data ∈ s.scheduled ∨
        ∃ c ∈ s.inFlight, c.dataRef = data := by
  apply System.step_cases s i (motive := fun s' =>
    ∀ data ∈ s'.history.filterMap Occurrence.notified?,
      data ∈ s.history.filterMap Occurrence.notified? ∨ data ∈ s.scheduled ∨
        ∃ c ∈ s.inFlight, c.dataRef = data)
  case idle => exact fun data h => Or.inl h
  case notified =>
    intro work rest hs data h
    rcases notified_concat h with hold | hnew
    · exact Or.inl hold
    · cases hnew
      exact Or.inr (Or.inl (hs ▸ List.mem_cons_self))
  case skipped => exact fun _ _ _ _ _ data h => Or.inl h
  case logged =>
    intro _ _ _ o _ ho _ data h
    rcases notified_concat h with hold | hnew
    · exact Or.inl hold
    · cases o with
      | groupInvoked | refused => cases hnew
      | notified | invoked | succeeded | failed => exact absurd ho id
  case invoked | succeeded | failed =>
    intros
    next data h =>
      rcases notified_concat h with hold | hnew
      · exact Or.inl hold
      · cases hnew
  case recovers =>
    intro position c _ hc _ data h
    rcases notified_concat h with hold | hnew
    · rcases notified_concat hold with hold | hnew
      · exact Or.inl hold
      · cases hnew
    · cases hnew
      exact Or.inr (Or.inr ⟨c, List.mem_of_getElem? hc, rfl⟩)

theorem callRequest_eq_some {e : EmberBindingTableEntry} {data : BindingData}
    {r : Request} (h : callRequest (e, data) = some r) :
    ∃ command, data.command? = some command ∧
      (data.isGroup = false ∧ e.type = .unicast ∧
          r = .invokeCommandRequest ⟨e, command, data⟩ ∨
        data.isGroup = true ∧ e.type = .multicast ∧
          r = .invokeGroupCommandRequest e command) := by
  rw [callRequest_eq_calledFor, calledFor] at h
  split at h
  next htype hgroup =>
    obtain ⟨command, hcommand, rfl⟩ := Option.map_eq_some_iff.mp h
    exact ⟨command, hcommand, Or.inl ⟨hgroup, htype, rfl⟩⟩
  next htype hgroup =>
    obtain ⟨command, hcommand, rfl⟩ := Option.map_eq_some_iff.mp h
    exact ⟨command, hcommand, Or.inr ⟨hgroup, htype, rfl⟩⟩
  next => cases h

theorem Accounted.request {s : Service} (h : s.Accounted matching)
    {r : Request} (hr : r ∈ s.handler.history.filterMap Occurrence.request?) :
    ∃ n ∈ s.notices, ∃ e ∈ n.bindingTable,
      matching n.data.endpointId n.data.clusterId e = true ∧
        callRequest (e, n.data) = some r := by
  obtain ⟨gone, hgone, hrequests⟩ := h.calls
  have hmem := hrequests.mem_iff.mp (List.mem_append_left _ hr)
  obtain ⟨call, hcall, hcallr⟩ := List.mem_filterMap.mp hmem
  have hcalls := hgone.mem_iff.mp (List.mem_append_left _ hcall)
  obtain ⟨n, hn, hncall⟩ := List.mem_flatMap.mp hcalls
  obtain ⟨e, he, rfl⟩ := List.mem_map.mp hncall
  obtain ⟨hmem, hmatch⟩ := List.mem_filter.mp he
  exact ⟨n, hn, e, hmem, hmatch, hcallr⟩

theorem Accounted.dataRef {s : Service} (h : s.Accounted matching)
    {c : Invocation} (hc : c ∈ s.handler.inFlight) :
    c.dataRef ∈ s.handler.history.filterMap Occurrence.notified? := by
  have hinvoked := h.commands.mem_iff.mp (List.mem_append_right _ hc)
  obtain ⟨o, ho, hoc⟩ := List.mem_filterMap.mp hinvoked
  have hr : Request.invokeCommandRequest c ∈
      s.handler.history.filterMap Occurrence.request? := by
    refine List.mem_filterMap.mpr ⟨o, ho, ?_⟩
    cases o <;> cases hoc
    rfl
  obtain ⟨n, hn, e, -, -, hcall⟩ := h.request hr
  obtain ⟨command, -, ⟨-, -, heq⟩ | ⟨-, -, heq⟩⟩ := callRequest_eq_some hcall
  · injection heq with heq
    rw [heq, ← h.told]
    exact List.mem_map_of_mem hn
  · cases heq

def OnlyAsked (s : Service) : Prop :=
  ∀ data ∈ s.handler.history.filterMap Occurrence.notified?, s.AskedFor data

theorem OnlyAsked.step {s : Service} (h : s.OnlyAsked)
    (hs : s.Accounted matching) (i : ServiceInput) :
    (s.step shell matching i).OnlyAsked := by
  have hask {i : ServiceInput} {handler : System}
      (hhistory : handler.history = s.handler.history) :
      (s.ask i handler).OnlyAsked := by
    intro data hdata
    have hdata' : data ∈
        s.handler.history.filterMap Occurrence.notified? := hhistory ▸ hdata
    rw [AskedFor, Service.ask, List.map_append]
    exact List.mem_append_left _ (h data hdata')
  cases i with
  | initiateActionSwitch mAction allocated =>
      cases allocated <;> exact hask rfl
  | dimmerChangeBrightness allocated => cases allocated <;> exact hask rfl
  | environment e =>
      cases e with
      | switchCommand argv =>
          rw [Service.step, Service.environment, switchCommand_eq]
          exact hask rfl
      | bindingTable bindingTable => exact h
      | giveUp position =>
          rw [Service.step, Service.environment, Service.giveUp]
          split
          next => exact h
          next => exact h
      | handler i =>
          intro data hdata
          rcases notified_step s.handler i data hdata with
            hold | hwork | ⟨c, hc, rfl⟩
          · exact h data hold
          · rw [AskedFor]
            show data ∈ s.asked.map (·.data)
            rw [← hs.work]
            exact List.mem_append_right _ hwork
          · exact h _ (hs.dataRef hc)

/-! ## The runs -/

theorem onlyAsked_after (shell : Shell)
    (matching : EndpointId → ClusterId → EmberBindingTableEntry → Bool)
    (bindingTable : List EmberBindingTableEntry)
    (mLightSwitchEndpoint : EndpointId) (inputs : List ServiceInput) :
    (after shell matching bindingTable mLightSwitchEndpoint
      inputs).OnlyAsked := by
  have hstep (s : Service) (i : ServiceInput)
      (h : s.Accounted matching ∧ s.OnlyAsked) :
      (s.step shell matching i).Accounted matching ∧
        (s.step shell matching i).OnlyAsked := ⟨h.1.step i, h.2.step h.1 i⟩
  have hinit : (boot bindingTable mLightSwitchEndpoint).OnlyAsked :=
    fun _ hdata => absurd hdata List.not_mem_nil
  exact (run_inv hstep ⟨accounted_boot _ _, hinit⟩ inputs).2

/-- The worker notifies the manager of all that was asked for, by button and
shell, in the order it was asked for, and each time once. -/
theorem asked_in_order (shell : Shell)
    (matching : EndpointId → ClusterId → EmberBindingTableEntry → Bool)
    (bindingTable : List EmberBindingTableEntry)
    (mLightSwitchEndpoint : EndpointId) (inputs : List ServiceInput) :
    let s := after shell matching bindingTable mLightSwitchEndpoint inputs
    s.handler.history.filterMap Occurrence.work? ++ s.handler.scheduled =
      s.asked.map (·.data) :=
  (accounted_after _ _ _).work

/-- Whatever happens to the table, the sessions and the work queue, the
requests made of the SDK, those whose call is still owed and those whose call
was dropped are those that the notifications so far called for. -/
theorem requests_accounted (shell : Shell)
    (matching : EndpointId → ClusterId → EmberBindingTableEntry → Bool)
    (bindingTable : List EmberBindingTableEntry)
    (mLightSwitchEndpoint : EndpointId) (inputs : List ServiceInput) :
    let s := after shell matching bindingTable mLightSwitchEndpoint inputs
    s.notices.map (·.data) =
        s.handler.history.filterMap Occurrence.notified? ∧
      s.handler.history.filterMap Occurrence.request? ++
          s.givenUp.filterMap calledFor ++
          s.handler.owed.filterMap calledFor ~
        (s.notices.flatMap (·.calls matching)).filterMap calledFor := by
  intro s
  have h : s.Accounted matching := accounted_after _ _ _
  exact ⟨h.told, h.requests⟩

/-- Behind every request stands something that was asked for and an entry
that the table had for it when the manager was notified. What was asked of
the devices goes to the device of a unicast entry, what was asked of the
groups to the group of a multicast entry, and neither to anything else. -/
theorem requests_asked_for (shell : Shell)
    (matching : EndpointId → ClusterId → EmberBindingTableEntry → Bool)
    (bindingTable : List EmberBindingTableEntry)
    (mLightSwitchEndpoint : EndpointId) (inputs : List ServiceInput) :
    let s := after shell matching bindingTable mLightSwitchEndpoint inputs
    ∀ r ∈ s.handler.history.filterMap Occurrence.request?,
      ∃ n ∈ s.notices, ∃ e ∈ n.bindingTable, ∃ command,
        s.AskedFor n.data ∧
          matching n.data.endpointId n.data.clusterId e = true ∧
          n.data.command? = some command ∧
          (n.data.isGroup = false ∧ e.type = .unicast ∧
              r = .invokeCommandRequest ⟨e, command, n.data⟩ ∨
            n.data.isGroup = true ∧ e.type = .multicast ∧
              r = .invokeGroupCommandRequest e command) := by
  intro s r hr
  have h : s.Accounted matching := accounted_after _ _ _
  obtain ⟨n, hn, e, he, hmatch, hcall⟩ := h.request hr
  obtain ⟨command, hcommand, hcases⟩ := callRequest_eq_some hcall
  have hasked : s.AskedFor n.data := by
    refine onlyAsked_after shell matching bindingTable mLightSwitchEndpoint
      inputs n.data ?_
    rw [← h.told]
    exact List.mem_map_of_mem hn
  exact ⟨n, hn, e, he, command, hasked, hmatch, hcommand, hcases⟩

end Service

end SmartHome.Binding
