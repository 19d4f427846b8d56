import SmartHome.Binding.System

/-!
# What the binding handler can do

Two things carry the proofs about bound devices. The first is what
`LightSwitchChangedHandler` makes of one binding, which the type of the
binding and the `IsGroup` of the data decide between them: a unicast binding
only ever leads to a command for its own device, a multicast one to a group
command, and an unused one to nothing. The second is `System.step_cases`,
which lists what an input can do to the state.
-/

namespace SmartHome.Binding

open LightSwitch (Action)

variable {matching : EndpointId → ClusterId → EmberBindingTableEntry → Bool}

/-! ## The handler, by the type of the binding -/

/-- The command that some data stands for, if the handler knows it. -/
def BindingData.command? (data : BindingData) : Option Command :=
  if data.clusterId = OnOff.Id then
    if data.commandId = OnOff.Commands.Toggle.Id then some .toggle
    else if data.commandId = OnOff.Commands.On.Id then some .on
    else if data.commandId = OnOff.Commands.Off.Id then some .off
    else none
  else if data.clusterId = LevelControl.Id then
    if data.commandId = LevelControl.Commands.MoveToLevel.Id then
      some (.moveToLevel data.value)
    else none
  else none

/-- The two `switch` statements, which the branches of the handler share. -/
theorem processCommand_eq (binding : EmberBindingTableEntry)
    (deviceProxy : Bool) (data : BindingData) :
    (if data.clusterId = OnOff.Id then
      onOffProcessCommand data.commandId binding deviceProxy data
    else if data.clusterId = LevelControl.Id then
      levelControlProcessCommand data.commandId binding deviceProxy data
    else none) =
      data.command?.map (invoke binding deviceProxy data) := by
  unfold BindingData.command? onOffProcessCommand levelControlProcessCommand
  split
  · split
    · rfl
    · split
      · rfl
      · split <;> rfl
  · split
    · split <;> rfl
    · rfl

theorem handler_unicast {binding : EmberBindingTableEntry}
    (h : binding.type = .unicast) (deviceProxy : Bool) (data : BindingData) :
    lightSwitchChangedHandler binding deviceProxy (some data) =
      if data.isGroup then none
      else data.command?.map (invoke binding deviceProxy data) := by
  rw [lightSwitchChangedHandler, processCommand_eq, processCommand_eq, h]
  cases data.isGroup <;> rfl

theorem handler_multicast {binding : EmberBindingTableEntry}
    (h : binding.type = .multicast) (deviceProxy : Bool)
    (data : BindingData) :
    lightSwitchChangedHandler binding deviceProxy (some data) =
      if data.isGroup then data.command?.map (invoke binding false data)
      else none := by
  rw [lightSwitchChangedHandler, processCommand_eq, processCommand_eq, h]
  cases data.isGroup <;> rfl

theorem handler_unused {binding : EmberBindingTableEntry}
    (h : binding.type = .unused) (deviceProxy : Bool) (data : BindingData) :
    lightSwitchChangedHandler binding deviceProxy (some data) = none := by
  rw [lightSwitchChangedHandler, h]
  cases data.isGroup <;> rfl

/-- A command for a device comes of a unicast binding and goes to the device
that is bound there. -/
theorem handler_invokes {binding : EmberBindingTableEntry}
    {data : BindingData} {c : Invocation}
    (h : lightSwitchChangedHandler binding (binding.type == .unicast)
      (some data) = some (.invokeCommandRequest c)) :
    binding.type = .unicast ∧ data.isGroup = false ∧
      data.command? = some c.command ∧ c = ⟨binding, c.command, data⟩ := by
  cases htype : binding.type with
  | unused =>
      rw [handler_unused htype] at h
      cases h
  | multicast =>
      rw [handler_multicast htype] at h
      split at h
      · obtain ⟨command, -, hc⟩ := Option.map_eq_some_iff.mp h
        cases hc
      · cases h
  | unicast =>
      rw [handler_unicast htype, htype] at h
      split at h
      · cases h
      · next hgroup =>
          obtain ⟨command, hcommand, hc⟩ := Option.map_eq_some_iff.mp h
          cases hc
          exact ⟨rfl, eq_false_of_ne_true hgroup, hcommand, rfl⟩

/-! ## What a step can do -/

/-- An occurrence that concerns no single device. -/
def Occurrence.IsQuiet : Occurrence → Prop
  | .groupInvoked _ _ => True
  | .refused _ => True
  | _ => False

/-- Making one call leaves the other calls owed. -/
theorem mem_eraseIdx_of_ne {α : Type _} {l : List α} {a b : α}
    {position : Nat} (ha : a ∈ l) (hb : l[position]? = some b) (hne : a ≠ b) :
    a ∈ l.eraseIdx position := by
  obtain ⟨k, hk⟩ := List.mem_iff_getElem?.mp ha
  refine List.mem_eraseIdx_iff_getElem?.mpr ⟨k, ?_, hk⟩
  intro heq
  subst heq
  rw [hk] at hb
  exact hne (Option.some.inj hb)

/-- Everything a step can do. Of the calls the manager owes, one that leads
to no command for a device either leads to no request at all or leaves a
quiet occurrence; a request that would have been such a command has then
been refused. -/
theorem System.step_cases (s : System) (i : Input) {motive : System → Prop}
    (idle : motive s)
    (notified : ∀ data rest, s.scheduled = data :: rest →
      motive (System.switchWorkerHandler matching
        { s with scheduled := rest } data))
    (skipped : ∀ position binding data,
      s.owed[position]? = some (binding, data) →
      lightSwitchChangedHandler binding (binding.type == .unicast)
        (some data) = none →
      motive { s with owed := s.owed.eraseIdx position })
    (logged : ∀ position binding data o,
      s.owed[position]? = some (binding, data) → o.IsQuiet →
      (∀ c, lightSwitchChangedHandler binding (binding.type == .unicast)
        (some data) = some (.invokeCommandRequest c) → ∃ r, o = .refused r) →
      motive { s with
        owed := s.owed.eraseIdx position
        history := s.history ++ [o] })
    (invoked : ∀ position binding data c,
      s.owed[position]? = some (binding, data) →
      lightSwitchChangedHandler binding (binding.type == .unicast)
        (some data) = some (.invokeCommandRequest c) →
      motive { s with
        owed := s.owed.eraseIdx position
        inFlight := s.inFlight ++ [c]
        history := s.history ++ [.invoked c] })
    (succeeded : ∀ position c, i = .onSuccess position →
      s.inFlight[position]? = some c →
      motive { s with
        inFlight := s.inFlight.eraseIdx position
        mCaseSessionRecovered := false
        history := s.history ++ [.succeeded c] })
    (recovers : ∀ position c, i = .onFailure position .timeout →
      s.inFlight[position]? = some c → s.mCaseSessionRecovered = false →
      motive (System.notifyBoundClusterChanged matching
        { s with
          inFlight := s.inFlight.eraseIdx position
          mCaseSessionRecovered := true
          history := s.history ++ [.failed c .timeout] }
        .onInvokeCommandFailure c.dataRef))
    (failed : ∀ position c aError, s.inFlight[position]? = some c →
      (aError = .timeout → s.mCaseSessionRecovered = true) →
      motive { s with
        inFlight := s.inFlight.eraseIdx position
        history := s.history ++ [.failed c aError] }) :
    motive (System.step matching s i) := by
  cases i with
  | work =>
      rw [System.step]
      split
      next => exact idle
      next data rest hs => exact notified data rest hs
  | handler position ret =>
      rw [System.step]
      split
      next => exact idle
      next binding data ho =>
        dsimp only
        split
        next hr => exact skipped position binding data ho hr
        next r hr =>
          unfold System.request
          split
          next =>
            cases r with
            | invokeCommandRequest c =>
                exact invoked position binding data c ho hr
            | invokeGroupCommandRequest b c =>
                refine logged position binding data (.groupInvoked b c) ho
                  trivial fun c hc => ?_
                rw [hr] at hc
                cases hc
          next =>
            exact logged position binding data (.refused r) ho trivial
              fun _ _ => ⟨r, rfl⟩
  | onSuccess position =>
      rw [System.step]
      split
      next => exact idle
      next c hc => exact succeeded position c rfl hc
  | onFailure position aError =>
      rw [System.step]
      split
      next => exact idle
      next c hc =>
        rw [System.onInvokeCommandFailure]
        split
        next h =>
          obtain ⟨rfl, hflag⟩ := h
          exact recovers position c rfl hc hflag
        next h =>
          refine failed position c aError hc fun ht => ?_
          exact eq_true_of_ne_false fun hflag => h ⟨ht, hflag⟩

end SmartHome.Binding
