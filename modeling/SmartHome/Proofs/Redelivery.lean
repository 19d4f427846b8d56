import Mathlib.Tactic.ByContra
import Mathlib.Tactic.Push
import SmartHome.Machine.History
import SmartHome.Proofs.Binding

/-!
# Which devices are sent a command again

A recovery round notifies the manager of the whole cluster, not of the
binding that timed out, so every bound device is sent the command again. A
device that has already applied it is among them if it answers too early:
before the round starts, or after that but before the manager gets to it.
`toggled_back` is the first of the two, with a `Toggle`.

`RetransmitsUnapplied` excludes exactly these two. In a run that meets it no
device is sent the command again after it has reported success. It asks for
no more than it has to: a run in which a step fails it, and whose calls have
then all been made, did send the command to such a device.

What counts as one device is up to the reader. The results hold for any way
`deviceOf` of telling the devices of the table apart.
-/

namespace SmartHome.Binding

open Machine
open LightSwitch (Action)

variable {matching : EndpointId → ClusterId → EmberBindingTableEntry → Bool}
  {δ : Type _} {deviceOf : EmberBindingTableEntry → δ}

/-- A device that has reported success is not sent the command again. -/
def AtMostOnce (deviceOf : EmberBindingTableEntry → δ)
    (history : List Occurrence) : Prop :=
  EachAfter (fun earlier o => ∀ c c', o = .invoked c →
    .succeeded c' ∈ earlier → deviceOf c'.binding ≠ deviceOf c.binding) history

def Occurrence.isSuccess : Occurrence → Bool
  | .succeeded _ => true
  | _ => false

/-- No device reports success while the manager still owes it a call, and no
recovery round starts once some device has reported success. -/
def RetransmitsUnapplied (deviceOf : EmberBindingTableEntry → δ) (s : System)
    (i : Input) : Prop :=
  match i with
  | .onSuccess position =>
      ∀ c ∈ s.inFlight[position]?, ∀ x ∈ s.owed, x.1.type = .unicast →
        deviceOf x.1 ≠ deviceOf c.binding
  | .onFailure position .timeout =>
      position < s.inFlight.length → s.mCaseSessionRecovered = false →
        ∀ o ∈ s.history, o.isSuccess = false
  | _ => True

instance [DecidableEq δ] : ∀ s i, Decidable (RetransmitsUnapplied deviceOf s i)
  | s, .onSuccess position => inferInstanceAs (Decidable
      (∀ c ∈ s.inFlight[position]?, ∀ x ∈ s.owed, x.1.type = .unicast →
        deviceOf x.1 ≠ deviceOf c.binding))
  | _, .onFailure _ .timeout => inferInstanceAs (Decidable (_ → _ → _))
  | _, .work | _, .handler _ _ | _, .onFailure _ .noError
  | _, .onFailure _ .other => isTrue trivial

/-! ## One command

Everything outstanding in the run of one action belongs to that action's
data, and every command was sent to a device of the table for it. -/

/-- `c` is what the handler makes of its binding, given the data. -/
structure SentFor
    (matching : EndpointId → ClusterId → EmberBindingTableEntry → Bool)
    (bindingTable : List EmberBindingTableEntry) (data : BindingData)
    (c : Invocation) : Prop where
  bound : c.binding ∈ bindingTable
  matches' : matching data.endpointId data.clusterId c.binding = true
  invokes : lightSwitchChangedHandler c.binding (c.binding.type == .unicast)
    (some data) = some (.invokeCommandRequest c)

structure Sending
    (matching : EndpointId → ClusterId → EmberBindingTableEntry → Bool)
    (data : BindingData) (s : System) : Prop where
  scheduled : s.scheduled = [] ∨
    (s.scheduled = [data] ∧ s.owed = [] ∧ s.inFlight = [] ∧ s.history = [])
  owed : ∀ x ∈ s.owed, x.1 ∈ s.bindingTable ∧
    matching data.endpointId data.clusterId x.1 = true ∧ x.2 = data
  inFlight : ∀ c ∈ s.inFlight, SentFor matching s.bindingTable data c
  succeeded : ∀ c, .succeeded c ∈ s.history →
    SentFor matching s.bindingTable data c

theorem SentFor.unicast {bindingTable : List EmberBindingTableEntry}
    {data : BindingData} {c : Invocation}
    (h : SentFor matching bindingTable data c) :
    c.binding.type = .unicast := (handler_invokes h.invokes).1

theorem SentFor.dataRef {bindingTable : List EmberBindingTableEntry}
    {data : BindingData} {c : Invocation}
    (h : SentFor matching bindingTable data c) : c.dataRef = data := by
  rw [(handler_invokes h.invokes).2.2.2]

/-- What one device can be sent, every device with a unicast binding can. -/
theorem SentFor.handler {bindingTable : List EmberBindingTableEntry}
    {data : BindingData} {c : Invocation}
    (h : SentFor matching bindingTable data c)
    {binding : EmberBindingTableEntry} (hb : binding.type = .unicast) :
    lightSwitchChangedHandler binding (binding.type == .unicast)
      (some data) =
        some (.invokeCommandRequest ⟨binding, c.command, data⟩) := by
  obtain ⟨-, hgroup, hcommand, -⟩ := handler_invokes h.invokes
  rw [handler_unicast hb, hgroup, hcommand, hb]
  rfl

/-- A success recorded before an entry that is none. -/
theorem succeeded_of_concat {history : List Occurrence} {o : Occurrence}
    {c : Invocation} (hc : .succeeded c ∈ history ++ [o])
    (ho : ∀ c, o ≠ .succeeded c) : .succeeded c ∈ history := by
  rcases List.mem_append.mp hc with hc | hc
  · exact hc
  · exact absurd (List.mem_singleton.mp hc).symm (ho c)

/-- The entries that a notification adds to the calls owed. -/
theorem mem_notified {bindingTable : List EmberBindingTableEntry}
    {data : BindingData} {x : EmberBindingTableEntry × BindingData} :
    x ∈ (bindingTable.filter (matching data.endpointId data.clusterId)).map
        (·, data) ↔
      x.1 ∈ bindingTable ∧
        matching data.endpointId data.clusterId x.1 = true ∧ x.2 = data := by
  rw [List.mem_map]
  constructor
  · intro hsome
    obtain ⟨e, he, rfl⟩ := hsome
    obtain ⟨hmem, hmatch⟩ := List.mem_filter.mp he
    exact ⟨hmem, hmatch, rfl⟩
  · intro hboth
    obtain ⟨hmem, hmatch, hdata⟩ := hboth
    exact ⟨x.1, List.mem_filter.mpr ⟨hmem, hmatch⟩, by rw [← hdata]⟩

theorem Sending.notify {data : BindingData} {s : System}
    (h : Sending matching data s) (hs : s.scheduled = [])
    (notifier : Notifier) : Sending matching data
      (s.notifyBoundClusterChanged matching notifier data) where
  scheduled := Or.inl hs
  owed := by
    intro x hx
    rcases List.mem_append.mp hx with hx | hx
    · exact h.owed x hx
    · exact mem_notified.mp hx
  inFlight := h.inFlight
  succeeded := fun c hc =>
    h.succeeded c (succeeded_of_concat hc fun _ => Occurrence.noConfusion)

theorem Sending.scheduled_of_owed {data : BindingData} {s : System}
    (h : Sending matching data s) {x : EmberBindingTableEntry × BindingData}
    (hx : x ∈ s.owed) : s.scheduled = [] :=
  h.scheduled.resolve_right fun hs => by
    rw [hs.2.1] at hx
    exact List.not_mem_nil hx

theorem Sending.scheduled_of_inFlight {data : BindingData} {s : System}
    (h : Sending matching data s) {c : Invocation} (hc : c ∈ s.inFlight) :
    s.scheduled = [] :=
  h.scheduled.resolve_right fun hs => by
    rw [hs.2.2.1] at hc
    exact List.not_mem_nil hc

/-- A step that starts nothing new: what is owed and in flight afterwards
was so before, and nobody reports success. -/
theorem Sending.of_less {data : BindingData} {s s' : System}
    (h : Sending matching data s) (hs : s'.scheduled = [])
    (ht : s'.bindingTable = s.bindingTable)
    (howed : ∀ x ∈ s'.owed, x ∈ s.owed)
    (hflight : ∀ c ∈ s'.inFlight, c ∈ s.inFlight)
    (hdone : ∀ c, .succeeded c ∈ s'.history →
      c ∈ s.inFlight ∨ .succeeded c ∈ s.history) :
    Sending matching data s' := by
  refine ⟨Or.inl hs, fun x hx => ?_, fun c hc => ?_, fun c hc => ?_⟩
  · rw [ht]
    exact h.owed x (howed x hx)
  · rw [ht]
    exact h.inFlight c (hflight c hc)
  · rw [ht]
    exact (hdone c hc).elim (h.inFlight c) (h.succeeded c)

theorem Sending.step {data : BindingData} {s : System}
    (h : Sending matching data s) (i : Input) :
    Sending matching data (System.step matching s i) := by
  have howed : ∀ {position}, ∀ x ∈ s.owed.eraseIdx position, x ∈ s.owed :=
    fun _ => List.mem_of_mem_eraseIdx
  have hflight : ∀ {position}, ∀ c ∈ s.inFlight.eraseIdx position,
      c ∈ s.inFlight := fun _ => List.mem_of_mem_eraseIdx
  apply System.step_cases s i (motive := Sending matching data)
  case idle => exact h
  case notified =>
    intro data' rest hs
    rcases h.scheduled with hnil | ⟨hone, -⟩
    · rw [hnil] at hs
      cases hs
    · rw [hone] at hs
      injection hs with hdata hrest
      subst hdata hrest
      have hrest : Sending matching data { s with scheduled := [] } :=
        ⟨Or.inl rfl, h.owed, h.inFlight, h.succeeded⟩
      exact hrest.notify rfl _
  case skipped =>
    intro position binding data' ho _
    exact h.of_less (h.scheduled_of_owed (List.mem_of_getElem? ho)) rfl howed
      (fun _ => id) (fun _ => Or.inr)
  case logged =>
    intro position binding data' o ho hquiet _
    refine h.of_less (h.scheduled_of_owed (List.mem_of_getElem? ho)) rfl howed
      (fun _ => id) fun c hc => Or.inr (succeeded_of_concat hc ?_)
    intro c heq
    subst heq
    exact hquiet
  case invoked =>
    intro position binding data' c ho hc
    obtain ⟨hbound, hmatches, hdata⟩ := h.owed _ (List.mem_of_getElem? ho)
    dsimp only at hdata
    subst hdata
    have hbinding : c.binding = binding := by
      rw [(handler_invokes hc).2.2.2]
    refine ⟨Or.inl (h.scheduled_of_owed (List.mem_of_getElem? ho)),
      fun x hx => h.owed x (howed x hx), fun c' hc' => ?_, fun c' hc' => ?_⟩
    · rcases List.mem_append.mp hc' with hc' | hc'
      · exact h.inFlight c' hc'
      · rw [List.mem_singleton.mp hc']
        subst hbinding
        exact ⟨hbound, hmatches, hc⟩
    · exact h.succeeded c' (succeeded_of_concat hc' (by simp))
  case succeeded =>
    intro position c _ hc
    refine h.of_less (h.scheduled_of_inFlight (List.mem_of_getElem? hc)) rfl
      (fun _ => id) hflight fun c' hc' => ?_
    rcases List.mem_append.mp hc' with hc' | hc'
    · exact Or.inr hc'
    · cases List.mem_singleton.mp hc'
      exact Or.inl (List.mem_of_getElem? hc)
  case recovers =>
    intro position c _ hc _
    have hmem := List.mem_of_getElem? hc
    have hless : Sending matching data { s with
        inFlight := s.inFlight.eraseIdx position
        mCaseSessionRecovered := true
        history := s.history ++ [.failed c .timeout] } := by
      exact h.of_less (h.scheduled_of_inFlight hmem) rfl (fun _ => id) hflight
        fun c' hc' => Or.inr (succeeded_of_concat hc' (by simp))
    rw [(h.inFlight c hmem).dataRef]
    exact hless.notify (h.scheduled_of_inFlight hmem) _
  case failed =>
    intro position c aError hc _
    exact h.of_less (h.scheduled_of_inFlight (List.mem_of_getElem? hc)) rfl
      (fun _ => id) hflight
      fun c' hc' => Or.inr (succeeded_of_concat hc' (by simp))

/-! ## The condition is enough

`Fresh` is the invariant: nobody was sent the command again so far, and no
call that is still owed would do it. -/

/-- The manager owes a call that would send the command to a device which
has applied it. -/
def WouldResend (deviceOf : EmberBindingTableEntry → δ)
    (owed : List (EmberBindingTableEntry × BindingData))
    (history : List Occurrence) : Prop :=
  ∃ x ∈ owed, x.1.type = .unicast ∧
    ∃ c, .succeeded c ∈ history ∧ deviceOf c.binding = deviceOf x.1

def Fresh (deviceOf : EmberBindingTableEntry → δ) (s : System) : Prop :=
  AtMostOnce deviceOf s.history ∧ ¬ WouldResend deviceOf s.owed s.history

theorem AtMostOnce.concat {history : List Occurrence} {o : Occurrence}
    (h : AtMostOnce deviceOf history) (ho : ∀ c, o ≠ .invoked c) :
    AtMostOnce deviceOf (history ++ [o]) :=
  eachAfter_concat.mpr ⟨h, fun c _ hc => absurd hc (ho c)⟩

theorem WouldResend.of_concat {history : List Occurrence} {o : Occurrence}
    {owed : List (EmberBindingTableEntry × BindingData)}
    (h : WouldResend deviceOf owed (history ++ [o]))
    (ho : ∀ c, o ≠ .succeeded c) : WouldResend deviceOf owed history := by
  obtain ⟨x, hx, htype, c, hc, hd⟩ := h
  exact ⟨x, hx, htype, c, succeeded_of_concat hc ho, hd⟩

theorem WouldResend.mono {history : List Occurrence}
    {owed owed' : List (EmberBindingTableEntry × BindingData)}
    (h : WouldResend deviceOf owed history) (hsub : ∀ x ∈ owed, x ∈ owed') :
    WouldResend deviceOf owed' history := by
  obtain ⟨x, hx, h⟩ := h
  exact ⟨x, hsub x hx, h⟩

theorem not_wouldResend_of_unapplied {history : List Occurrence}
    (h : ∀ o ∈ history, o.isSuccess = false)
    (owed : List (EmberBindingTableEntry × BindingData)) :
    ¬ WouldResend deviceOf owed history := by
  intro hw
  obtain ⟨-, -, -, c, hc, -⟩ := hw
  exact Bool.noConfusion (h _ hc)

/-- A step that adds to the history neither a command nor a success, and to
the calls owed nothing. -/
theorem Fresh.record {s s' : System} (h : Fresh deviceOf s) {o : Occurrence}
    (hh : s'.history = s.history ++ [o]) (howed : ∀ x ∈ s'.owed, x ∈ s.owed)
    (hinvoked : ∀ c, o ≠ .invoked c) (hsucceeded : ∀ c, o ≠ .succeeded c) :
    Fresh deviceOf s' := by
  rw [Fresh, hh]
  exact ⟨h.1.concat hinvoked, fun hw =>
    h.2 ((hw.of_concat hsucceeded).mono howed)⟩

theorem Fresh.step {data : BindingData} {s : System}
    {i : Input} (h : Fresh deviceOf s) (hs : Sending matching data s)
    (hi : RetransmitsUnapplied deviceOf s i) :
    Fresh deviceOf (System.step matching s i) := by
  have howed : ∀ {position}, ∀ x ∈ s.owed.eraseIdx position, x ∈ s.owed :=
    fun _ => List.mem_of_mem_eraseIdx
  apply System.step_cases s i (motive := Fresh deviceOf)
  case idle => exact h
  case notified =>
    intro data' rest hscheduled
    have hempty : s.history = [] := by
      rcases hs.scheduled with hnil | ⟨-, -, -, hempty⟩
      · rw [hnil] at hscheduled
        cases hscheduled
      · exact hempty
    refine ⟨h.1.concat (by simp), fun hw => ?_⟩
    refine not_wouldResend_of_unapplied ?_ _ (hw.of_concat (by simp))
    rw [hempty]
    intro o ho
    exact absurd ho List.not_mem_nil
  case skipped =>
    intro position binding data' _ _
    exact ⟨h.1, fun hw => h.2 (hw.mono howed)⟩
  case logged =>
    intro _ _ _ o _ hquiet _
    refine h.record rfl howed ?_ ?_
    · intro c heq
      subst heq
      exact hquiet
    · intro c heq
      subst heq
      exact hquiet
  case invoked =>
    intro position binding data' c ho hc
    obtain ⟨htype, -, -, hbinding⟩ := handler_invokes hc
    refine ⟨eachAfter_concat.mpr ⟨h.1, ?_⟩, fun hw => ?_⟩
    · intro c₁ c' heq hdone hsame
      cases heq
      rw [hbinding] at hsame
      exact h.2 ⟨_, List.mem_of_getElem? ho, htype, c', hdone, hsame⟩
    · exact h.2 ((hw.of_concat (by simp)).mono howed)
  case succeeded =>
    intro position c heq hc
    subst heq
    refine ⟨h.1.concat (by simp), ?_⟩
    intro hsome
    obtain ⟨x, hx, htype, c', hc', hsame⟩ := hsome
    rcases List.mem_append.mp hc' with hc' | hc'
    · exact h.2 ⟨x, hx, htype, c', hc', hsame⟩
    · cases List.mem_singleton.mp hc'
      exact hi c hc x hx htype hsame.symm
  case recovers =>
    intro position c heq hc hflag
    subst heq
    have hlt : position < s.inFlight.length :=
      (List.getElem?_eq_some_iff.mp hc).1
    refine ⟨(h.1.concat (by simp)).concat (by simp), fun hw => ?_⟩
    exact not_wouldResend_of_unapplied (hi hlt hflag) _
      ((hw.of_concat (by simp)).of_concat (by simp))
  case failed =>
    intro position c aError _ _
    exact h.record rfl (fun _ hx => hx) (by simp) (by simp)

/-! ## The condition is needed

Once a step has failed the condition, there is no way back: either the call
that would resend the command is still owed, or it has been made. The only
other thing that can happen to it is that the SDK refuses the request. -/

def Doomed (deviceOf : EmberBindingTableEntry → δ) (s : System) : Prop :=
  WouldResend deviceOf s.owed s.history ∨ ¬ AtMostOnce deviceOf s.history ∨
    ∃ r, .refused r ∈ s.history

/-- What has happened stays in the history. -/
theorem Doomed.of_past {s s' : System}
    (h : ¬ AtMostOnce deviceOf s.history ∨ ∃ r, .refused r ∈ s.history)
    (hh : ∃ more, s'.history = s.history ++ more) : Doomed deviceOf s' := by
  obtain ⟨more, hh⟩ := hh
  rw [Doomed, hh]
  rcases h with hmore | ⟨r, hr⟩
  · exact Or.inr (Or.inl fun h => hmore h.of_append)
  · exact Or.inr (Or.inr ⟨r, List.mem_append.mpr (Or.inl hr)⟩)

theorem Doomed.more {s s' : System} (h : Doomed deviceOf s)
    (howed : ∀ x ∈ s.owed, x ∈ s'.owed)
    (hh : ∃ more, s'.history = s.history ++ more) : Doomed deviceOf s' := by
  rcases h with ⟨x, hx, htype, c, hc, hsame⟩ | hpast
  · obtain ⟨more, hh⟩ := hh
    refine Or.inl ⟨x, howed x hx, htype, c, ?_, hsame⟩
    rw [hh]
    exact List.mem_append.mpr (Or.inl hc)
  · exact Doomed.of_past hpast hh

/-- The manager makes one of the calls it owes. Either the resend is still
owed afterwards, or this was the call. -/
theorem Doomed.called {s s' : System} (h : Doomed deviceOf s)
    {position : Nat} {binding : EmberBindingTableEntry} {data : BindingData}
    (ho : s.owed[position]? = some (binding, data))
    (howed : s'.owed = s.owed.eraseIdx position)
    (hh : ∃ more, s'.history = s.history ++ more)
    (hcall : binding.type = .unicast → ∀ c, .succeeded c ∈ s.history →
      deviceOf c.binding = deviceOf binding → Doomed deviceOf s') :
    Doomed deviceOf s' := by
  rcases h with ⟨x, hx, htype, c, hc, hsame⟩ | hpast
  · by_cases hthis : x = (binding, data)
    · subst hthis
      exact hcall htype c hc hsame
    · obtain ⟨more, hh⟩ := hh
      refine Or.inl ⟨x, ?_, htype, c, ?_, hsame⟩
      · rw [howed]
        exact mem_eraseIdx_of_ne hx ho hthis
      · rw [hh]
        exact List.mem_append.mpr (Or.inl hc)
  · exact Doomed.of_past hpast hh

theorem Doomed.step {data : BindingData} {s : System}
    (h : Doomed deviceOf s) (hs : Sending matching data s) (i : Input) :
    Doomed deviceOf (System.step matching s i) := by
  have hhandler : ∀ {position : Nat} {binding data'},
      s.owed[position]? = some (binding, data') → binding.type = .unicast →
      ∀ c, .succeeded c ∈ s.history → ∃ c',
        lightSwitchChangedHandler binding (binding.type == .unicast)
          (some data') = some (.invokeCommandRequest c') := by
    intro position binding data' ho htype c hc
    obtain ⟨-, -, hdata⟩ := hs.owed _ (List.mem_of_getElem? ho)
    dsimp only at hdata
    rw [hdata]
    exact ⟨_, (hs.succeeded c hc).handler htype⟩
  apply System.step_cases s i (motive := Doomed deviceOf)
  case idle => exact h
  case notified =>
    intro data' rest _
    exact h.more (fun _ hx => List.mem_append.mpr (Or.inl hx)) ⟨_, rfl⟩
  case skipped =>
    intro position binding data' ho hnone
    refine h.called ho rfl ⟨[], (List.append_nil _).symm⟩
      fun htype c hc _ => ?_
    obtain ⟨c', hc'⟩ := hhandler ho htype c hc
    rw [hnone] at hc'
    cases hc'
  case logged =>
    intro position binding data' o ho _ hrefused
    refine h.called ho rfl ⟨_, rfl⟩ fun htype c hc _ => ?_
    obtain ⟨c', hc'⟩ := hhandler ho htype c hc
    obtain ⟨r, rfl⟩ := hrefused c' hc'
    exact Or.inr (Or.inr ⟨r, List.mem_append.mpr
      (Or.inr List.mem_cons_self)⟩)
  case invoked =>
    intro position binding data' c' ho hc'
    refine h.called ho rfl ⟨_, rfl⟩ fun _ c hc hsame => ?_
    refine Or.inr (Or.inl fun hmost => ?_)
    refine hmost s.history (.invoked c') [] rfl c' c rfl hc ?_
    rw [hsame, (handler_invokes hc').2.2.2]
  case succeeded =>
    intro position c _ _
    exact h.more (fun _ hx => hx) ⟨_, rfl⟩
  case recovers =>
    intro position c _ _ _
    exact h.more (fun _ hx => List.mem_append.mpr (Or.inl hx))
      ⟨_, List.append_assoc _ _ _⟩
  case failed =>
    intro position c aError _ _
    exact h.more (fun _ hx => hx) ⟨_, rfl⟩

/-- A step that fails the condition leaves a resend owed. -/
theorem doomed_of_not_retransmitsUnapplied {data : BindingData} {s : System}
    {i : Input}
    (hs : Sending matching data s)
    (hi : ¬ RetransmitsUnapplied deviceOf s i) :
    Doomed deviceOf (System.step matching s i) := by
  unfold RetransmitsUnapplied at hi
  split at hi
  next position =>
    push Not at hi
    obtain ⟨c, hc, x, hx, htype, hsame⟩ := hi
    rw [Option.mem_def] at hc
    simp only [System.step, hc]
    exact Or.inl ⟨x, hx, htype, c,
      List.mem_append.mpr (Or.inr List.mem_cons_self), hsame.symm⟩
  next position =>
    push Not at hi
    obtain ⟨hlt, hflag, o, ho, hdone⟩ := hi
    obtain ⟨c, rfl⟩ : ∃ c, o = .succeeded c := by
      unfold Occurrence.isSuccess at hdone
      split at hdone
      next c => exact ⟨c, rfl⟩
      next => exact absurd rfl hdone
    have hc := List.getElem?_eq_getElem hlt
    have hsent := hs.succeeded c ho
    have hdata := (hs.inFlight _ (List.mem_of_getElem? hc)).dataRef
    simp only [System.step, hc, System.onInvokeCommandFailure, hflag,
      and_self, if_true, hdata]
    refine Or.inl ⟨(c.binding, data), ?_, hsent.unicast, c, ?_, rfl⟩
    · exact List.mem_append.mpr (Or.inr
        (mem_notified.mpr ⟨hsent.bound, hsent.matches', rfl⟩))
    · exact List.mem_append.mpr (Or.inl (List.mem_append.mpr (Or.inl ho)))
  next => exact absurd trivial hi

/-! ## The runs -/

theorem sending_initiated (bindingTable : List EmberBindingTableEntry)
    (mLightSwitchEndpoint : EndpointId) (mAction : Action)
    (allocated : Bool) :
    Sending matching
      (actionSwitchData bindingTable mLightSwitchEndpoint mAction)
      (System.initiated bindingTable mLightSwitchEndpoint mAction
        allocated) := by
  cases allocated with
  | false =>
      exact ⟨Or.inl rfl, fun _ h => absurd h List.not_mem_nil,
        fun _ h => absurd h List.not_mem_nil,
        fun _ h => absurd h List.not_mem_nil⟩
  | true =>
      exact ⟨Or.inr ⟨rfl, rfl, rfl, rfl⟩, fun _ h => absurd h List.not_mem_nil,
        fun _ h => absurd h List.not_mem_nil,
        fun _ h => absurd h List.not_mem_nil⟩

theorem fresh_initiated (bindingTable : List EmberBindingTableEntry)
    (mLightSwitchEndpoint : EndpointId) (mAction : Action)
    (allocated : Bool) :
    Fresh deviceOf (System.initiated bindingTable mLightSwitchEndpoint mAction
      allocated) := by
  have hnone : ¬ WouldResend deviceOf [] [] := by
    intro hsome
    obtain ⟨x, hx, -⟩ := hsome
    cases hx
  cases allocated with
  | false => exact ⟨eachAfter_nil _, hnone⟩
  | true => exact ⟨eachAfter_nil _, hnone⟩

/-- A run of one action whose steps all meet the condition sends the command
to no device that has reported success, whatever the table. The converse
holds of the runs in which every call owed has been made and the SDK has
refused no request. -/
theorem applied_not_resent {δ : Type _}
    (deviceOf : EmberBindingTableEntry → δ)
    (matching : EndpointId → ClusterId → EmberBindingTableEntry → Bool)
    (bindingTable : List EmberBindingTableEntry)
    (mLightSwitchEndpoint : EndpointId) (mAction : Action) (allocated : Bool)
    (inputs : List Input) :
    let start := System.initiated bindingTable mLightSwitchEndpoint mAction
      allocated
    let s := System.afterAction matching bindingTable mLightSwitchEndpoint
      mAction allocated inputs
    (Along (System.step matching) (RetransmitsUnapplied deviceOf) start inputs →
        AtMostOnce deviceOf s.history) ∧
      (s.owed = [] → (∀ r, .refused r ∉ s.history) →
        AtMostOnce deviceOf s.history →
        Along (System.step matching) (RetransmitsUnapplied deviceOf) start
          inputs) := by
  intro start s
  have hsending : Sending matching _ start := sending_initiated bindingTable
    mLightSwitchEndpoint mAction allocated
  refine ⟨fun h => ?_, fun howed hrefused hmost => ?_⟩
  · have hinv := run_inv_along
      (fun s i (hs : Sending matching _ s ∧ Fresh deviceOf s) hi =>
        ⟨hs.1.step i, hs.2.step hs.1 hi⟩)
      ⟨hsending, fresh_initiated bindingTable mLightSwitchEndpoint mAction
        allocated⟩ h
    exact hinv.2.1
  · by_contra hnot
    rw [along_iff, EachAfter] at hnot
    push Not at hnot
    obtain ⟨pre, i, post, rfl, hi⟩ := hnot
    have hpre := run_inv (fun s i => Sending.step (i := i)) hsending pre
    have hend := run_inv
      (fun s i (hs : Sending matching _ s ∧ Doomed deviceOf s) =>
        ⟨hs.1.step i, hs.2.step hs.1 i⟩)
      ⟨hpre.step i, doomed_of_not_retransmitsUnapplied hpre hi⟩ post
    have hs : s = run (System.step matching)
        (System.step matching (run (System.step matching) start pre) i)
        post := by
      show run (System.step matching) start (pre ++ i :: post) = _
      rw [run_append, run_cons]
    rw [← hs] at hend
    rcases hend.2 with ⟨x, hx, -⟩ | hmore | ⟨r, hr⟩
    · rw [howed] at hx
      cases hx
    · exact hmore hmost
    · exact hrefused r hr

/-- A round of recovery that is sound: both devices time out before either
has answered, and each is sent the command once more. -/
theorem applied_not_resent_two_timeouts :
    let device (nodeId : UInt64) : EmberBindingTableEntry :=
      { type := .unicast, localEndpoint := 1, clusterId := some OnOff.Id,
        nodeId }
    let s := System.afterAction
      (fun endpoint cluster e =>
        e.localEndpoint == endpoint && e.clusterId.all (· == cluster))
      [device 1, device 2] 1 .toggle true
      [.work, .handler 0 .noError, .handler 0 .noError,
        .onFailure 0 .timeout, .onFailure 0 .timeout, .handler 0 .noError,
        .handler 0 .noError, .onSuccess 0, .onSuccess 0]
    AtMostOnce (·.nodeId) s.history ∧ s.inFlight = [] := by
  refine ⟨?_, by decide⟩
  exact (applied_not_resent (·.nodeId) _ _ 1 .toggle true _).1 (by decide)

/-- One device toggles its light; the other one times out, and the round of
recovery sends the `Toggle` to both. -/
theorem toggled_back :
    let device (nodeId : UInt64) : EmberBindingTableEntry :=
      { type := .unicast, localEndpoint := 1, clusterId := some OnOff.Id,
        nodeId }
    let s := System.afterAction
      (fun endpoint cluster e =>
        e.localEndpoint == endpoint && e.clusterId.all (· == cluster))
      [device 1, device 2] 1 .toggle true
      [.work, .handler 0 .noError, .handler 0 .noError, .onSuccess 0,
        .onFailure 0 .timeout, .handler 0 .noError]
    ¬ AtMostOnce (·.nodeId) s.history :=
  fun h => h _ _ [] rfl _ _ rfl (by decide) rfl

end SmartHome.Binding
