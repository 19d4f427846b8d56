import SmartHome.Machine.Latch
import SmartHome.Proofs.Binding

/-!
# How often a command is retransmitted

`mCaseSessionRecovered` is there "to not try recover session multiple
times". It is one flag for all bound devices, so a success of any of them
clears it, and a device that stays away and times out again then starts
another round. `recovered_twice` is the shortest such run.

Seen from the flag, a time-out is the trip of a latch and a success is its
reset; nothing else touches it. The number of rounds is the latch's count,
whatever the table, the order of the calls and the order of the callbacks,
and what is proved about latches in general says when it stays at one.
-/

namespace SmartHome.Binding

open Machine LightSwitch
open scoped List

variable {matching : EndpointId → ClusterId → EmberBindingTableEntry → Bool}

/-! ## The flag as a latch -/

/-- What an occurrence means to the flag. -/
def Occurrence.signal : Occurrence → Signal
  | .failed _ .timeout => .trip
  | .succeeded _ => .reset
  | _ => .idle

theorem signal_trip {o : Occurrence} (h : o.signal = .trip) :
    ∃ c, o = .failed c .timeout := by
  unfold Occurrence.signal at h
  split at h <;> cases h
  next c => exact ⟨c, rfl⟩

theorem signal_reset {o : Occurrence} (h : o.signal = .reset) :
    ∃ c, o = .succeeded c := by
  unfold Occurrence.signal at h
  split at h <;> cases h
  next c => exact ⟨c, rfl⟩

def Occurrence.isRetransmission : Occurrence → Bool
  | .notified .onInvokeCommandFailure _ => true
  | _ => false

/-- The number of times `OnInvokeCommandFailure` notified the manager. -/
def System.retransmissions (s : System) : Nat :=
  s.history.countP Occurrence.isRetransmission

def LatchInv (s : System) : Prop :=
  run Latch.step {} (s.history.map Occurrence.signal) =
    ⟨s.mCaseSessionRecovered, s.retransmissions⟩

/-- One more entry of the history is one more signal to the latch. -/
theorem LatchInv.record {s s' : System} (h : LatchInv s) {o : Occurrence}
    (hh : s'.history = s.history ++ [o])
    (hl : Latch.step ⟨s.mCaseSessionRecovered, s.retransmissions⟩ o.signal =
      ⟨s'.mCaseSessionRecovered, s'.retransmissions⟩) : LatchInv s' := by
  rw [LatchInv, hh, List.map_append, List.map_singleton, run_concat,
    show run Latch.step {} (s.history.map Occurrence.signal) = _ from h, hl]

/-- An entry that is no signal and no retransmission. -/
theorem LatchInv.record_idle {s s' : System} (h : LatchInv s)
    {o : Occurrence} (hh : s'.history = s.history ++ [o])
    (hf : s'.mCaseSessionRecovered = s.mCaseSessionRecovered)
    (ho : o.signal = .idle) (hr : o.isRetransmission = false) :
    LatchInv s' := by
  refine h.record hh ?_
  rw [ho, Latch.step, hf, System.retransmissions, System.retransmissions, hh,
    List.countP_append, List.countP_singleton, hr]
  rfl

theorem LatchInv.step {s : System} (h : LatchInv s) (i : Input) :
    LatchInv (System.step matching s i) := by
  apply System.step_cases s i (motive := LatchInv)
  case idle => exact h
  case notified =>
    intro data rest _
    exact h.record_idle rfl rfl rfl rfl
  case skipped =>
    intro position binding data _ _
    exact h
  case logged =>
    intro _ _ _ o _ ho _
    cases o with
    | groupInvoked | refused => exact h.record_idle rfl rfl rfl rfl
    | notified | invoked | succeeded | failed => exact absurd ho id
  case invoked =>
    intro position binding data c _ _
    exact h.record_idle rfl rfl rfl rfl
  case succeeded =>
    intro position c _ _
    refine h.record rfl ?_
    simp [Latch.step, Occurrence.signal, System.retransmissions,
      Occurrence.isRetransmission]
  case recovers =>
    intro position c _ _ hflag
    have hrun := h
    rw [LatchInv, hflag] at hrun
    rw [LatchInv, System.notifyBoundClusterChanged]
    simp [run_append, hrun, Latch.step, Occurrence.signal,
      System.retransmissions, Occurrence.isRetransmission]
  case failed =>
    intro position c aError _ hflag
    refine h.record rfl ?_
    cases aError with
    | timeout =>
        simp [Latch.step, Occurrence.signal, hflag rfl,
          System.retransmissions, Occurrence.isRetransmission]
    | noError | other =>
        simp [Latch.step, Occurrence.signal, System.retransmissions,
          Occurrence.isRetransmission]

/-! ## The runs -/

theorem latchInv_afterAction (bindingTable : List EmberBindingTableEntry)
    (mLightSwitchEndpoint : EndpointId) (mAction : Action) (allocated : Bool)
    (inputs : List Input) :
    LatchInv (System.afterAction matching bindingTable mLightSwitchEndpoint
      mAction allocated inputs) := by
  refine run_inv (fun s i h => h.step i) ?_ inputs
  cases allocated <;> rfl

/-- However many devices are bound, one user action leads to more than one
round of retransmissions exactly when some command times out, after that
some command succeeds, and after that some command times out. -/
theorem retransmissions_le_one
    (matching : EndpointId → ClusterId → EmberBindingTableEntry → Bool)
    (bindingTable : List EmberBindingTableEntry)
    (mLightSwitchEndpoint : EndpointId) (mAction : Action) (allocated : Bool)
    (inputs : List Input) :
    let s := System.afterAction matching bindingTable mLightSwitchEndpoint
      mAction allocated inputs
    s.retransmissions ≤ 1 ↔
      ¬ ∃ c₁ c₂ c₃, [.failed c₁ .timeout, .succeeded c₂,
        .failed c₃ .timeout] <+ s.history := by
  intro s
  have hrun : LatchInv s := latchInv_afterAction bindingTable
    mLightSwitchEndpoint mAction allocated inputs
  have hcount : s.retransmissions =
      (run Latch.step {} (s.history.map Occurrence.signal)).trips := by
    rw [hrun]
  rw [hcount, Latch.trips_le_one, List.sublist_map_iff]
  refine not_congr ⟨?_, ?_⟩
  · intro hsome
    obtain ⟨w, hw, hsignals⟩ := hsome
    obtain ⟨o₁, w₁, rfl, h₁, hw₁⟩ := List.map_eq_cons_iff.mp hsignals.symm
    obtain ⟨o₂, w₂, rfl, h₂, hw₂⟩ := List.map_eq_cons_iff.mp hw₁
    obtain ⟨o₃, w₃, rfl, h₃, hw₃⟩ := List.map_eq_cons_iff.mp hw₂
    obtain ⟨c₁, rfl⟩ := signal_trip h₁
    obtain ⟨c₂, rfl⟩ := signal_reset h₂
    obtain ⟨c₃, rfl⟩ := signal_trip h₃
    rw [List.map_eq_nil_iff.mp hw₃] at hw
    exact ⟨c₁, c₂, c₃, hw⟩
  · intro hsome
    obtain ⟨c₁, c₂, c₃, h⟩ := hsome
    exact ⟨_, h, rfl⟩

/-- Two devices, of which the second answers and the first does not. The
answer of the second clears the flag that the first one's time-out had set,
and the first one's next time-out starts another round. -/
theorem recovered_twice :
    let device (nodeId : UInt64) : EmberBindingTableEntry :=
      { type := .unicast, localEndpoint := 1, clusterId := some OnOff.Id,
        nodeId }
    let s := System.afterAction
      (fun endpoint cluster e =>
        e.localEndpoint == endpoint && e.clusterId.all (· == cluster))
      [device 1, device 2] 1 .toggle true
      [.work, .handler 0 .noError, .handler 0 .noError, .onFailure 0 .timeout,
        .onSuccess 0, .handler 0 .noError, .handler 0 .noError,
        .onFailure 0 .timeout]
    s.retransmissions = 2 ∧ ¬ s.retransmissions ≤ 1 := by
  decide

end SmartHome.Binding
