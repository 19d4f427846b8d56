import SmartHome.Proofs.Delivery
import SmartHome.Proofs.Recovery
import SmartHome.Proofs.Redelivery
import SmartHome.Proofs.Service

/-!
# Whether recovery comes to an end

The flag that is to keep the handler from recovering sessions again and again
is cleared by the success of any device, and a round of recovery calls every
device of the cluster. With one device these two do no harm: its success is
the end of the action, and its second time-out finds the flag set. With two
devices they feed each other. The device that is there answers each round,
which clears the flag, and the device that is not there times out, which
starts the next round; and in each round the first device is sent the command
again.

So it is only a matter of how many devices a notification reaches. As long as
that is one at most, a round puts one command in the place of the one that
timed out, and every success uses up an action: `Supplied` is that balance,
and it holds however many actions are under way, `rounds_le_asked`. For a
table with two devices `Rerun` is what one more round of four inputs restores,
and `recovery_ends_iff` says that there is nothing between the two.
-/

namespace SmartHome.Binding

open Machine LightSwitch

variable {matching : EndpointId → ClusterId → EmberBindingTableEntry → Bool}
  {bindingTable : List EmberBindingTableEntry} {data : BindingData}

/-- The entry is for a device, and the manager calls the handler for it. -/
def isDevice
    (matching : EndpointId → ClusterId → EmberBindingTableEntry → Bool)
    (endpointId : EndpointId) (clusterId : ClusterId)
    (e : EmberBindingTableEntry) : Bool :=
  matching endpointId clusterId e && e.type == .unicast

def Occurrence.isAppliedBy (device : EmberBindingTableEntry) :
    Occurrence → Bool
  | .succeeded c => c.binding == device
  | _ => false

def System.applied (s : System) (device : EmberBindingTableEntry) : Nat :=
  s.history.countP (Occurrence.isAppliedBy device)

/-! ## What is outstanding -/

def Request.isCommand : Request → Bool
  | .invokeCommandRequest _ => true
  | .invokeGroupCommandRequest _ _ => false

def sends (call : EmberBindingTableEntry × BindingData) : Bool :=
  (callRequest call).any Request.isCommand

/-- The commands for devices that a notification leads to are one at most. -/
def Notice.IsForOne
    (matching : EndpointId → ClusterId → EmberBindingTableEntry → Bool)
    (n : Notice) : Prop := (n.calls matching).countP sends ≤ 1

instance (n : Notice) : Decidable (n.IsForOne matching) :=
  inferInstanceAs (Decidable (_ ≤ 1))

/-- What may still lead to the callback of a command. -/
def System.outstanding (s : System) : Nat :=
  s.scheduled.length + s.owed.countP sends + s.inFlight.length

def System.successes (s : System) : Nat :=
  s.history.countP Occurrence.isSuccess

def newlyNotified (s s' : System) : List BindingData :=
  (s'.history.drop s.history.length).filterMap Occurrence.notified?

/-- With so many actions: each success used one up, and between two rounds
there was one. -/
structure Supplied (asked : Nat) (s : System) : Prop where
  supply : s.successes + s.outstanding ≤ asked
  spaced : s.retransmissions ≤ s.successes + s.mCaseSessionRecovered.toNat
  rounds : s.retransmissions ≤ asked

section Supplied

variable {asked : Nat} {s s' : System}

theorem Supplied.more (h : Supplied asked s) {new : Nat}
    (hless : s'.outstanding ≤ s.outstanding + new)
    (hflag : s'.mCaseSessionRecovered = s.mCaseSessionRecovered)
    (hsuccesses : s'.successes = s.successes)
    (hrounds : s'.retransmissions = s.retransmissions) :
    Supplied (asked + new) s' := by
  obtain ⟨hsupply, hspaced, hle⟩ := h
  refine ⟨by omega, ?_, by omega⟩
  rw [hrounds, hsuccesses, hflag]
  exact hspaced

theorem Supplied.of_less (h : Supplied asked s)
    (hless : s'.outstanding ≤ s.outstanding)
    (hflag : s'.mCaseSessionRecovered = s.mCaseSessionRecovered)
    (hsuccesses : s'.successes = s.successes)
    (hrounds : s'.retransmissions = s.retransmissions) : Supplied asked s' :=
  @Supplied.more asked s s' h 0 hless hflag hsuccesses hrounds

theorem successes_concat {o : Occurrence}
    (hh : s'.history = s.history ++ [o]) :
    s'.successes = s.successes + o.isSuccess.toNat := by
  rw [System.successes, System.successes, hh, List.countP_append,
    List.countP_singleton]
  cases o.isSuccess <;> rfl

theorem retransmissions_concat {o : Occurrence}
    (hh : s'.history = s.history ++ [o]) :
    s'.retransmissions = s.retransmissions + o.isRetransmission.toNat := by
  rw [System.retransmissions, System.retransmissions, hh, List.countP_append,
    List.countP_singleton]
  cases o.isRetransmission <;> rfl

theorem Supplied.record (h : Supplied asked s) {o : Occurrence}
    (hh : s'.history = s.history ++ [o])
    (hless : s'.outstanding ≤ s.outstanding)
    (hflag : s'.mCaseSessionRecovered = s.mCaseSessionRecovered)
    (ho : o.isSuccess = false) (hr : o.isRetransmission = false) :
    Supplied asked s' := by
  refine h.of_less hless hflag ?_ ?_
  · rw [successes_concat hh, ho]
    rfl
  · rw [retransmissions_concat hh, hr]
    rfl

theorem length_eraseIdx_inFlight {position : Nat} {c : Invocation}
    (hc : s.inFlight[position]? = some c) :
    (s.inFlight.eraseIdx position).length + 1 = s.inFlight.length := by
  have hlt := (List.getElem?_eq_some_iff.mp hc).1
  rw [List.length_eraseIdx_of_lt hlt]
  omega

/-- The balance is kept as long as no notification is for two devices. -/
theorem Supplied.step (h : Supplied asked s) (i : Input)
    (hone : ∀ data ∈ newlyNotified s (System.step matching s i),
      Notice.IsForOne matching ⟨s.bindingTable, data⟩) :
    Supplied asked (System.step matching s i) := by
  have hleft : ∀ position,
      (s.owed.eraseIdx position).countP sends ≤ s.owed.countP sends :=
    fun position => (List.eraseIdx_sublist _ _).countP_le
  have hsum : s.outstanding =
      s.scheduled.length + s.owed.countP sends + s.inFlight.length := rfl
  obtain ⟨hsupply, hspaced, hrounds⟩ := id h
  revert hone
  apply System.step_cases s i (motive := fun s' =>
    (∀ data ∈ newlyNotified s s',
      Notice.IsForOne matching ⟨s.bindingTable, data⟩) → Supplied asked s')
  case idle => exact fun _ => h
  case notified =>
    intro data rest hs hone
    have hfew := hone data (by
      simp [newlyNotified, System.switchWorkerHandler,
        System.notifyBoundClusterChanged, Occurrence.notified?])
    dsimp only [Notice.IsForOne, Notice.calls] at hfew
    refine h.record rfl ?_ rfl rfl rfl
    simp only [System.switchWorkerHandler, System.notifyBoundClusterChanged,
      System.outstanding, hs, List.countP_append, List.length_cons]
    omega
  case skipped =>
    intro position binding data ho _ _
    have howed := hleft position
    refine h.of_less ?_ rfl rfl rfl
    simp only [System.outstanding]
    omega
  case logged =>
    intro position binding data o ho hquiet _ _
    have howed := hleft position
    have hnothing : o.isSuccess = false ∧ o.isRetransmission = false := by
      cases o with
      | groupInvoked | refused => exact ⟨rfl, rfl⟩
      | notified | invoked | succeeded | failed => exact absurd hquiet id
    refine h.record rfl ?_ rfl hnothing.1 hnothing.2
    simp only [System.outstanding]
    omega
  case invoked =>
    intro position binding data c ho hc _
    have hcall := (Transfers.take ho).countP sends
    have hsends : sends (binding, data) = true := by
      rw [sends, callRequest, hc]
      rfl
    rw [List.countP_singleton, hsends, List.countP_nil] at hcall
    refine h.record rfl ?_ rfl rfl rfl
    simp only [System.outstanding, List.length_append,
      List.length_singleton, if_true] at hcall ⊢
    omega
  case succeeded =>
    intro position c _ hc _
    have hinFlight := length_eraseIdx_inFlight hc
    let s' : System := { s with
      inFlight := s.inFlight.eraseIdx position
      mCaseSessionRecovered := false
      history := s.history ++ [.succeeded c] }
    have hsuccesses : s'.successes = s.successes + 1 :=
      @successes_concat s s' (.succeeded c) rfl
    have hretransmissions : s'.retransmissions = s.retransmissions :=
      @retransmissions_concat s s' (.succeeded c) rfl
    have houtstanding : s'.outstanding + 1 = s.outstanding := by
      simp only [s', System.outstanding]
      omega
    have hflag := Bool.toNat_le s.mCaseSessionRecovered
    have hcleared : s'.mCaseSessionRecovered.toNat = 0 := rfl
    show Supplied asked s'
    exact ⟨by omega, by omega, by omega⟩
  case recovers =>
    intro position c _ hc hflag hone
    have hinFlight := length_eraseIdx_inFlight hc
    have hfew := hone c.dataRef (by
      simp [newlyNotified, System.notifyBoundClusterChanged,
        Occurrence.notified?])
    dsimp only [Notice.IsForOne, Notice.calls] at hfew
    rw [hflag, Bool.toNat_false] at hspaced
    let s' : System := System.notifyBoundClusterChanged matching
      { s with
        inFlight := s.inFlight.eraseIdx position
        mCaseSessionRecovered := true
        history := s.history ++ [.failed c .timeout] }
      .onInvokeCommandFailure c.dataRef
    have hsuccesses : s'.successes = s.successes := by
      simp [s', System.successes, System.notifyBoundClusterChanged,
        Occurrence.isSuccess]
    have hretransmissions : s'.retransmissions = s.retransmissions + 1 := by
      simp [s', System.retransmissions, System.notifyBoundClusterChanged,
        Occurrence.isRetransmission]
    -- one command timed out, and one call is owed at most
    have houtstanding : s'.outstanding ≤ s.outstanding := by
      simp only [s', System.notifyBoundClusterChanged, System.outstanding,
        List.countP_append]
      omega
    have hset : s'.mCaseSessionRecovered.toNat = 1 := rfl
    show Supplied asked s'
    exact ⟨by omega, by omega, by omega⟩
  case failed =>
    intro position c aError hc _ _
    have hinFlight := length_eraseIdx_inFlight hc
    refine h.record rfl ?_ rfl rfl rfl
    simp only [System.outstanding]
    omega

end Supplied

/-! ## Any number of actions -/

namespace Service

variable {shell : Shell} {s : Service}

theorem notices_step (s : Service) (i : ServiceInput) :
    ∃ new, (s.step shell matching i).notices = s.notices ++ new := by
  cases i with
  | initiateActionSwitch | dimmerChangeBrightness =>
      exact ⟨[], (List.append_nil _).symm⟩
  | environment e =>
      cases e with
      | switchCommand | bindingTable => exact ⟨[], (List.append_nil _).symm⟩
      | giveUp position =>
          rw [Service.step, Service.environment, Service.giveUp]
          split
          next => exact ⟨[], (List.append_nil _).symm⟩
          next => exact ⟨[], (List.append_nil _).symm⟩
      | handler i => exact ⟨_, rfl⟩

theorem supplied_ask (h : Supplied s.asked.length s.handler)
    (i : ServiceInput) {handler : System}
    (hscheduled : handler.scheduled =
      s.handler.scheduled ++ (s.asks i).map (·.data))
    (hrest : handler.owed = s.handler.owed ∧
      handler.inFlight = s.handler.inFlight ∧
      handler.history = s.handler.history ∧
      handler.mCaseSessionRecovered = s.handler.mCaseSessionRecovered) :
    Supplied (s.ask i handler).asked.length (s.ask i handler).handler := by
  obtain ⟨howed, hinFlight, hhistory, hflag⟩ := hrest
  have hasked : (s.ask i handler).asked.length =
      s.asked.length + (s.asks i).length := List.length_append
  rw [hasked]
  refine h.more ?_ hflag ?_ ?_
  · simp only [Service.ask, System.outstanding, hscheduled, howed, hinFlight,
      List.length_append, List.length_map]
    omega
  · simp only [Service.ask, System.successes, hhistory]
  · simp only [Service.ask, System.retransmissions, hhistory]

theorem supplied_step (s : Service) (i : ServiceInput)
    (h : Supplied s.asked.length s.handler)
    (hone : ∀ n ∈ (s.step shell matching i).notices, n.IsForOne matching) :
    Supplied (s.step shell matching i).asked.length
      (s.step shell matching i).handler := by
  cases i with
  | initiateActionSwitch mAction allocated =>
      cases allocated with
      | true => exact supplied_ask h _ rfl ⟨rfl, rfl, rfl, rfl⟩
      | false =>
          exact supplied_ask h _ (List.append_nil _).symm
            ⟨rfl, rfl, rfl, rfl⟩
  | dimmerChangeBrightness allocated =>
      cases allocated with
      | true => exact supplied_ask h _ rfl ⟨rfl, rfl, rfl, rfl⟩
      | false =>
          exact supplied_ask h _ (List.append_nil _).symm
            ⟨rfl, rfl, rfl, rfl⟩
  | environment e =>
      cases e with
      | switchCommand argv =>
          rw [Service.step, Service.environment, switchCommand_eq]
          exact supplied_ask h _ rfl ⟨rfl, rfl, rfl, rfl⟩
      | bindingTable bindingTable =>
          exact h.of_less (Nat.le_refl _) rfl rfl rfl
      | giveUp position =>
          rw [Service.step, Service.environment, Service.giveUp]
          split
          next => exact h
          next call hcall =>
            refine h.of_less ?_ rfl rfl rfl
            have hleft : (s.handler.owed.eraseIdx position).countP sends ≤
                s.handler.owed.countP sends :=
              (List.eraseIdx_sublist _ _).countP_le
            simp only [System.outstanding]
            omega
      | handler i =>
          refine h.step i fun data hdata => ?_
          exact hone _ (List.mem_append_right _ (List.mem_map_of_mem hdata))

/-- Over any run, with any number of actions under way: as long as every
notification, by the table as it was then, is for one device at most, there
are no more rounds of recovery than actions. -/
theorem rounds_le_asked (shell : Shell)
    (matching : EndpointId → ClusterId → EmberBindingTableEntry → Bool)
    (bindingTable : List EmberBindingTableEntry)
    (mLightSwitchEndpoint : EndpointId) (inputs : List ServiceInput)
    (hone : ∀ n ∈ (after shell matching bindingTable mLightSwitchEndpoint
      inputs).notices, n.IsForOne matching) :
    let s := after shell matching bindingTable mLightSwitchEndpoint inputs
    s.handler.retransmissions ≤ s.asked.length := by
  let start := boot bindingTable mLightSwitchEndpoint
  have hstart : Supplied start.asked.length start.handler :=
    ⟨Nat.le_refl 0, Nat.le_refl 0, Nat.le_refl 0⟩
  have hrun := @run_inv _ _ (step shell matching)
    (fun s => (∀ n ∈ s.notices, n.IsForOne matching) →
      Supplied s.asked.length s.handler)
    (fun s i h hone => by
      obtain ⟨new, hnew⟩ := @notices_step matching shell s i
      refine supplied_step s i (h fun n hn => hone n ?_) hone
      rw [hnew]
      exact List.mem_append_left _ hn) start (fun _ => hstart) inputs
  exact (hrun hone).rounds

/-- Two actions and one device, which answers the second action between its
two time-outs of the first: as many rounds as actions. -/
theorem rounds_le_asked_two_actions :
    let device : EmberBindingTableEntry :=
      { type := .unicast, localEndpoint := 1, clusterId := some OnOff.Id }
    let s := after Shell.firstMatch
      (fun endpoint cluster e =>
        e.localEndpoint == endpoint && e.clusterId.all (· == cluster))
      [device] 1
      [.initiateActionSwitch .toggle true, .initiateActionSwitch .toggle true,
        .environment (.handler .work), .environment (.handler .work),
        .environment (.handler (.handler 0 .noError)),
        .environment (.handler (.handler 0 .noError)),
        .environment (.handler (.onFailure 0 .timeout)),
        .environment (.handler (.onSuccess 0)),
        .environment (.handler (.handler 0 .noError)),
        .environment (.handler (.onFailure 0 .timeout))]
    s.handler.retransmissions = 2 ∧
      s.handler.retransmissions ≤ s.asked.length :=
  ⟨by decide, rounds_le_asked _ _ _ _ _ (by decide)⟩

end Service

/-! ## Two devices -/

section Rerun

variable {s : System} {command : Command} {device : EmberBindingTableEntry}

theorem step_called {l r : List (EmberBindingTableEntry × BindingData)}
    (howed : s.owed = l ++ (device, data) :: r)
    (htype : device.type = .unicast) (hgroup : data.isGroup = false)
    (hcommand : data.command? = some command) :
    System.step matching s (.handler l.length .noError) =
      { s with
        owed := l ++ r
        inFlight := s.inFlight ++ [⟨device, command, data⟩]
        history := s.history ++ [.invoked ⟨device, command, data⟩] } := by
  have hcall : s.owed[l.length]? = some (device, data) := by
    rw [howed, List.getElem?_append_right (Nat.le_refl _), Nat.sub_self]
    rfl
  have hrest : s.owed.eraseIdx l.length = l ++ r := by
    rw [howed, List.eraseIdx_append_of_length_le (Nat.le_refl _),
      Nat.sub_self]
    rfl
  rw [System.step, hcall]
  dsimp only
  rw [handler_unicast htype, hgroup, hcommand, htype, hrest]
  rfl

theorem step_answered {c : Invocation} {rest : List Invocation}
    (hinFlight : s.inFlight = c :: rest) :
    System.step matching s (.onSuccess 0) =
      { s with
        inFlight := rest
        mCaseSessionRecovered := false
        history := s.history ++ [.succeeded c] } := by
  rw [System.step, hinFlight]
  rfl

theorem step_timedOut {c : Invocation} {rest : List Invocation}
    (hinFlight : s.inFlight = c :: rest)
    (hflag : s.mCaseSessionRecovered = false) :
    System.step matching s (.onFailure 0 .timeout) =
      System.notifyBoundClusterChanged matching
        { s with
          inFlight := rest
          mCaseSessionRecovered := true
          history := s.history ++ [.failed c .timeout] }
        .onInvokeCommandFailure c.dataRef := by
  rw [System.step, hinFlight]
  exact if_pos ⟨rfl, hflag⟩

/-- After `n` rounds in each of which the device applied the command, the
manager owes all the calls again. -/
structure Rerun
    (matching : EndpointId → ClusterId → EmberBindingTableEntry → Bool)
    (bindingTable : List EmberBindingTableEntry) (data : BindingData)
    (device : EmberBindingTableEntry) (n : Nat) (s : System) : Prop where
  table : s.bindingTable = bindingTable
  owed : ∃ earlier, s.owed = earlier ++
    Notice.calls matching ⟨bindingTable, data⟩
  inFlight : s.inFlight = []
  rounds : s.retransmissions = n
  applied : s.applied device = n

theorem Rerun.next {other : EmberBindingTableEntry}
    {l m r : List (EmberBindingTableEntry × BindingData)}
    (hcalls : Notice.calls matching ⟨bindingTable, data⟩ =
      l ++ (other, data) :: (m ++ (device, data) :: r))
    (hdevice : device.type = .unicast) (hother : other.type = .unicast)
    (hgroup : data.isGroup = false) (hcommand : data.command? = some command)
    (n : Nat) (s : System)
    (h : Rerun matching bindingTable data device n s) :
    ∃ inputs, Rerun matching bindingTable data device (n + 1)
      (run (System.step matching) s inputs) := by
  obtain ⟨htable, ⟨earlier, howed⟩, hinFlight, hrounds, happlied⟩ := h
  have hfirst : s.owed =
      (earlier ++ l ++ (other, data) :: m) ++ (device, data) :: r := by
    rw [howed, hcalls]
    simp
  let s₁ := System.step matching s
    (.handler (earlier ++ l ++ (other, data) :: m).length .noError)
  have h₁ : s₁ = _ := step_called hfirst hdevice hgroup hcommand
  have hsecond : s₁.owed = (earlier ++ l) ++ (other, data) :: (m ++ r) := by
    rw [h₁]
    simp
  let s₂ := System.step matching s₁ (.handler (earlier ++ l).length .noError)
  have h₂ : s₂ = _ := step_called hsecond hother hgroup hcommand
  have hsent : s₂.inFlight =
      [⟨device, command, data⟩, ⟨other, command, data⟩] := by
    rw [h₂, h₁, hinFlight]
    rfl
  let s₃ := System.step matching s₂ (.onSuccess 0)
  have h₃ : s₃ = _ := step_answered hsent
  have hlast : s₃.inFlight = [⟨other, command, data⟩] := by rw [h₃]
  have hflag : s₃.mCaseSessionRecovered = false := by rw [h₃]
  let s₄ := System.step matching s₃ (.onFailure 0 .timeout)
  have h₄ : s₄ = _ := step_timedOut hlast hflag
  refine ⟨[.handler (earlier ++ l ++ (other, data) :: m).length .noError,
    .handler (earlier ++ l).length .noError, .onSuccess 0,
    .onFailure 0 .timeout], ?_⟩
  show Rerun matching bindingTable data device (n + 1) s₄
  rw [h₄, h₃, h₂, h₁]
  refine ⟨htable, ⟨earlier ++ l ++ (m ++ r), ?_⟩, rfl, ?_, ?_⟩
  · rw [Notice.calls, ← htable]
    rfl
  · rw [← hrounds]
    simp [System.notifyBoundClusterChanged, System.retransmissions,
      Occurrence.isRetransmission]
  · rw [← happlied]
    simp [System.notifyBoundClusterChanged, System.applied,
      Occurrence.isAppliedBy]

end Rerun

/-! ## The action -/

theorem exists_two_of_countP {α : Type _} {p : α → Bool} {l : List α}
    (h : 2 ≤ l.countP p) :
    ∃ x y a b c, l = a ++ x :: (b ++ y :: c) ∧ p x = true ∧ p y = true := by
  rw [List.countP_eq_length_filter] at h
  match hfilter : l.filter p, h with
  | x :: y :: rest, _ =>
      obtain ⟨a, l', rfl, -, hx, hrest⟩ := List.filter_eq_cons_iff.mp hfilter
      obtain ⟨b, c, rfl, -, hy, -⟩ := List.filter_eq_cons_iff.mp hrest
      exact ⟨x, y, a, b, c, rfl, hx, hy⟩

theorem countP_calls (bindingTable : List EmberBindingTableEntry)
    (data : BindingData) :
    (Notice.calls matching ⟨bindingTable, data⟩).countP
        (·.1.type == .unicast) =
      bindingTable.countP
        (isDevice matching data.endpointId data.clusterId) := by
  rw [Notice.calls, List.countP_map, List.countP_filter]
  refine List.countP_congr fun e _ => ?_
  rw [isDevice, Bool.and_comm]
  rfl

theorem sends_eq_true {call : EmberBindingTableEntry × BindingData}
    (h : sends call = true) :
    call.1.type = .unicast ∧ call.2.isGroup = false := by
  rw [sends] at h
  cases hr : callRequest call with
  | none => rw [hr] at h; cases h
  | some r =>
      rw [hr] at h
      cases r with
      | invokeCommandRequest c =>
          exact ⟨(handler_invokes hr).1, (handler_invokes hr).2.1⟩
      | invokeGroupCommandRequest binding command => cases h

/-- A command that goes to a group, or to one device at most. -/
theorem isForOne_of_ends
    (h : data.isGroup = true ∨ bindingTable.countP
      (isDevice matching data.endpointId data.clusterId) ≤ 1) :
    Notice.IsForOne matching ⟨bindingTable, data⟩ := by
  rw [Notice.IsForOne]
  rcases h with hgroup | hdevices
  · refine Nat.le_succ_of_le (Nat.le_of_eq (List.countP_eq_zero.mpr ?_))
    intro call hcall hsends
    have hdata : call.2 = data := (mem_notified.mp hcall).2.2
    rw [← hdata, (sends_eq_true hsends).2] at hgroup
    cases hgroup
  · rw [← countP_calls] at hdevices
    refine Nat.le_trans (List.countP_mono_left ?_) hdevices
    intro call _ hsends
    rw [(sends_eq_true hsends).1]
    rfl

theorem newlyNotified_step (s : System) (i : Input) :
    ∀ data ∈ newlyNotified s (System.step matching s i),
      data ∈ s.scheduled ∨ ∃ c ∈ s.inFlight, c.dataRef = data := by
  apply System.step_cases s i (motive := fun s' =>
    ∀ data ∈ newlyNotified s s',
      data ∈ s.scheduled ∨ ∃ c ∈ s.inFlight, c.dataRef = data)
  case notified =>
    intro work rest hs data h
    have hdata : data = work := by
      simpa [newlyNotified, System.switchWorkerHandler,
        System.notifyBoundClusterChanged, Occurrence.notified?] using h
    rw [hdata, hs]
    exact Or.inl List.mem_cons_self
  case recovers =>
    intro position c _ hc _ data h
    have hdata : c.dataRef = data := by
      simpa [newlyNotified, System.notifyBoundClusterChanged,
        Occurrence.notified?] using h
    exact Or.inr ⟨c, List.mem_of_getElem? hc, hdata⟩
  case logged =>
    intro _ _ _ o _ ho _ data h
    cases o with
    | groupInvoked | refused =>
        exact absurd h (by simp [newlyNotified, Occurrence.notified?])
    | notified | invoked | succeeded | failed => exact absurd ho id
  case idle | skipped | invoked | succeeded | failed =>
    intros
    next h => exact absurd h (by simp [newlyNotified, Occurrence.notified?])

theorem newlyNotified_sending {s : System} (h : Sending matching data s)
    (i : Input) :
    ∀ data' ∈ newlyNotified s (System.step matching s i), data' = data := by
  intro data' hdata'
  rcases newlyNotified_step s i data' hdata' with hwork | ⟨c, hc, rfl⟩
  · rcases h.scheduled with hnil | ⟨hone, -⟩
    · rw [hnil] at hwork
      exact absurd hwork List.not_mem_nil
    · rw [hone] at hwork
      exact List.mem_singleton.mp hwork
  · exact (h.inFlight c hc).dataRef

theorem exists_two_devices
    (h : 2 ≤ bindingTable.countP
      (isDevice matching data.endpointId data.clusterId)) :
    ∃ other device l m r, Notice.calls matching ⟨bindingTable, data⟩ =
        l ++ (other, data) :: (m ++ (device, data) :: r) ∧
      other.type = .unicast ∧ device.type = .unicast := by
  rw [← countP_calls] at h
  obtain ⟨x, y, l, m, r, hcalls, hx, hy⟩ := exists_two_of_countP h
  have hdata : ∀ z ∈ Notice.calls matching ⟨bindingTable, data⟩,
      z.2 = data :=
    fun z hz => (mem_notified.mp hz).2.2
  have hx' : x = (x.1, data) :=
    Prod.ext rfl (hdata x (by rw [hcalls]; simp))
  have hy' : y = (y.1, data) :=
    Prod.ext rfl (hdata y (by rw [hcalls]; simp))
  refine ⟨x.1, y.1, l, m, r, ?_, eq_of_beq hx, eq_of_beq hy⟩
  rw [← hx', ← hy']
  exact hcalls

def System.idle (bindingTable : List EmberBindingTableEntry)
    (mLightSwitchEndpoint : EndpointId) (sBrightness : UInt16)
    (mCaseSessionRecovered : Bool) : System :=
  { bindingTable, mLightSwitchEndpoint, sBrightness, mCaseSessionRecovered }

section Action

variable (bindingTable : List EmberBindingTableEntry)
  (mLightSwitchEndpoint : EndpointId) (sBrightness : UInt16)
  (mCaseSessionRecovered : Bool) (action : UserAction)

theorem act_idle :
    let start := System.idle bindingTable mLightSwitchEndpoint sBrightness
      mCaseSessionRecovered
    (start.act action).scheduled = [start.actionData action] ∧
      (start.act action).owed = [] ∧ (start.act action).inFlight = [] ∧
      (start.act action).history = [] := by
  cases action with
  | switch mAction => exact ⟨rfl, rfl, rfl, rfl⟩
  | changeBrightness => exact ⟨rfl, rfl, rfl, rfl⟩

theorem sending_act :
    let start := System.idle bindingTable mLightSwitchEndpoint sBrightness
      mCaseSessionRecovered
    Sending matching (start.actionData action) (start.act action) := by
  intro start
  obtain ⟨hscheduled, howed, hinFlight, hhistory⟩ := act_idle bindingTable
    mLightSwitchEndpoint sBrightness mCaseSessionRecovered action
  refine ⟨Or.inr ⟨hscheduled, howed, hinFlight, hhistory⟩, ?_, ?_, ?_⟩
  · rw [howed]
    exact fun _ h => absurd h List.not_mem_nil
  · rw [hinFlight]
    exact fun _ h => absurd h List.not_mem_nil
  · rw [hhistory]
    exact fun _ h => absurd h List.not_mem_nil

theorem rerun_work (device : EmberBindingTableEntry) :
    let start := System.idle bindingTable mLightSwitchEndpoint sBrightness
      mCaseSessionRecovered
    Rerun matching bindingTable (start.actionData action) device 0
      (System.step matching (start.act action) .work) := by
  intro start
  obtain ⟨hscheduled, howed, hinFlight, hhistory⟩ := act_idle bindingTable
    mLightSwitchEndpoint sBrightness mCaseSessionRecovered action
  have htable : (start.act action).bindingTable = bindingTable :=
    bindingTable_act start action
  rw [System.step, hscheduled]
  refine ⟨htable, ⟨[], ?_⟩, hinFlight, ?_, ?_⟩
  · simp only [System.switchWorkerHandler, System.notifyBoundClusterChanged]
    rw [howed, htable]
    rfl
  · simp only [System.switchWorkerHandler, System.notifyBoundClusterChanged,
      System.retransmissions]
    rw [hhistory]
    rfl
  · simp only [System.switchWorkerHandler, System.notifyBoundClusterChanged,
      System.applied]
    rw [hhistory]
    rfl

end Action

theorem bindingTable_step (s : System) (i : Input) :
    (System.step matching s i).bindingTable = s.bindingTable := by
  apply System.step_cases s i
    (motive := fun s' => s'.bindingTable = s.bindingTable) <;>
  · intros
    rfl

/-- An action whose commands go to a group, or to one device at most, is sent
again once at most, however the run goes. Any other action can be sent again
any number of times, and one and the same device applies it each time. -/
theorem recovery_ends_iff
    (matching : EndpointId → ClusterId → EmberBindingTableEntry → Bool)
    (bindingTable : List EmberBindingTableEntry)
    (mLightSwitchEndpoint : EndpointId) (sBrightness : UInt16)
    (mCaseSessionRecovered : Bool) (action : UserAction) :
    let after := System.afterUserAction matching bindingTable
      mLightSwitchEndpoint sBrightness mCaseSessionRecovered action
    let ends := isGroupBound bindingTable = true ∨
      bindingTable.countP
        (isDevice matching mLightSwitchEndpoint action.clusterId) ≤ 1
    ((∀ inputs, (after inputs).retransmissions ≤ 1) ↔ ends) ∧
      (¬ ends → ∃ device ∈ bindingTable, device.type = .unicast ∧
        ∀ n, ∃ inputs, (after inputs).retransmissions = n ∧
          (after inputs).applied device = n) := by
  intro after ends
  let start := System.idle bindingTable mLightSwitchEndpoint sBrightness
    mCaseSessionRecovered
  obtain ⟨hendpoint, hcluster, hgroup, command, hcommand⟩ :=
    actionData_spec start action
  have hsending : Sending matching _ (start.act action) := sending_act
    bindingTable mLightSwitchEndpoint sBrightness mCaseSessionRecovered action
  obtain ⟨hscheduled, howed, hinFlight, hhistory⟩ := act_idle bindingTable
    mLightSwitchEndpoint sBrightness mCaseSessionRecovered action
  have hnone : (start.act action).retransmissions = 0 := by
    rw [System.retransmissions, hhistory]
    rfl
  have hendless : ¬ ends → ∃ device ∈ bindingTable, device.type = .unicast ∧
      ∀ n, ∃ inputs, (after inputs).retransmissions = n ∧
        (after inputs).applied device = n := by
    intro hnot
    obtain ⟨hunbound, htwo⟩ := not_or.mp hnot
    have hunicast : (start.actionData action).isGroup = false :=
      hgroup.trans (eq_false_of_ne_true hunbound)
    obtain ⟨other, device, l, m, r, hcalls, hother, hdevice⟩ :=
      @exists_two_devices matching bindingTable (start.actionData action) (by
        rw [hendpoint, hcluster]
        exact Nat.lt_of_not_le htwo)
    refine ⟨device, ?_, hdevice, ?_⟩
    · have hmem : (device, start.actionData action) ∈
          Notice.calls matching ⟨bindingTable, start.actionData action⟩ := by
        rw [hcalls]
        simp
      exact (mem_notified.mp hmem).1
    · intro n
      obtain ⟨inputs, hrerun⟩ := run_rounds
        (Rerun.next hcalls hdevice hother hunicast hcommand)
        (rerun_work bindingTable mLightSwitchEndpoint sBrightness
          mCaseSessionRecovered action device) n
      exact ⟨.work :: inputs, hrerun.rounds, hrerun.applied⟩
  refine ⟨⟨?_, ?_⟩, hendless⟩
  · intro honce
    by_contra hnot
    obtain ⟨device, -, -, hrounds⟩ := hendless hnot
    obtain ⟨inputs, htwo, -⟩ := hrounds 2
    have := honce inputs
    omega
  · intro hends inputs
    have hone : Notice.IsForOne matching
        ⟨bindingTable, start.actionData action⟩ := by
      refine isForOne_of_ends ?_
      rw [hgroup, hendpoint, hcluster]
      exact hends
    have hstart : Supplied 1 (start.act action) := by
      refine ⟨?_, by omega, by omega⟩
      rw [System.successes, System.outstanding, hscheduled, howed, hinFlight,
        hhistory]
      exact Nat.le_refl 1
    have hinv := run_inv
      (fun s i (hs : Sending matching (start.actionData action) s ∧
          Supplied 1 s ∧ s.bindingTable = bindingTable) => by
        obtain ⟨hsend, hsupplied, htable⟩ := hs
        refine ⟨hsend.step i, hsupplied.step i fun data hdata => ?_,
          (bindingTable_step s i).trans htable⟩
        rw [newlyNotified_sending hsend i data hdata, htable]
        exact hone)
      ⟨hsending, hstart, bindingTable_act start action⟩ inputs
    exact hinv.2.1.rounds

end SmartHome.Binding
