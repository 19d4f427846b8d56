import SmartHome.Machine.Run
import SmartHome.Proofs.Handlers
import SmartHome.Spec.Gesture

/-!
# The switch button of the four-button build

The description of the button in `Spec/Gesture.lean` says what a press is
for. This file says when the firmware lives up to it: in every run in which
neither dimmer timer expires while a release of the switch button waits in
the queue, and in which no release comes ahead of every push, the dispatched
events are a word the gesture machine accepts, and the commands the handlers
initiate are the machine's answers.

Without the first condition it does not. Cancelling a timer leaves an expiry
that is already queued, and `TimerEventHandler` acts on it whatever the
button does: `stale_trigger_dims` switches the light on and starts the level
stepping after the button was let go. The second is about a button held down
while the device starts, whose release is reported and whose push is not.

Of the whole application only five things matter here, and `SwitchView`
keeps just those: the letters still queued, the two timers, the flag and the
button. `Tracks` ties a view to the phase the gesture machine is in; the
lemmas of its section are the transitions of the view. The record of a run
is then read as a word, and `SwitchInv` finds each input of the application
among the transitions.
-/

namespace SmartHome.LightSwitch

open Zephyr Machine Gesture

/-- The letter the gesture machine reads for an event. -/
def AppEvent.letter? (e : AppEvent) : Option Letter :=
  match e.kind with
  | .pushed switchButton => some .push
  | .released switchButton => some .release
  | .expired .dimmerTrigger => some .trigger
  | .expired .dimmer => some .tick
  | _ => none

def Effect.command? : Effect → Option Command
  | .initiateActionSwitch .toggle => some .toggle
  | .initiateActionSwitch .on => some .on
  | .initiateActionSwitch .off => some .off
  | .dimmerChangeBrightness => some .moveToLevel
  | _ => none

/-- The light commands one dispatch initiated. -/
def Dispatch.commands (d : Dispatch) : List Command :=
  d.effects.filterMap Effect.command?

/-- What is promised of the switch button. -/
structure SwitchGestures (s : System) : Prop where
  /-- A dispatched push and the dispatched release after it initiate one
  toggle, or one switching-on and then level steps. -/
  gestures : ∀ pre p mid r post,
    s.dispatched = pre ++ p :: (mid ++ r :: post) →
    p.event.edge? switchButton = some .push →
    r.event.edge? switchButton = some .release →
    (∀ d ∈ mid, d.event.edge? switchButton = none) →
    IsGesture (p.commands ++ mid.flatMap Dispatch.commands ++ r.commands)
  /-- Nothing is initiated outside a push and its release. -/
  inside : EachAfter (fun earlier d => d.commands ≠ [] →
    lastEdge switchButton (earlier.map (·.event)) = some .push) s.dispatched
  /-- Out of a press the dimmer is at rest. -/
  idle : lastEdge switchButton (s.dispatched.map (·.event)) ≠ some .push →
    s.task.sDimmerTimer.running = none ∧ s.task.sWasDimmerTriggered = false

/-- Neither dimmer timer expires between the release of the switch button and
the dispatch of that release. -/
def DimmersExpireBeforeRelease (s : System) (i : Input) : Prop :=
  (i = .timerExpiry .dimmerTrigger ∧
      s.task.sDimmerPressKeyTimer.running.isSome = true) ∨
    (i = .timerExpiry .dimmer ∧
      s.task.sDimmerTimer.running.isSome = true) →
  ∀ e ∈ s.task.sAppEventQueue.msgs, e.edge? switchButton ≠ some .release

instance : DecidableRel DimmersExpireBeforeRelease := fun _ _ =>
  inferInstanceAs (Decidable (_ → _))

/-- The input lets go of the switch button. -/
def System.letsGo (s : System) : Input → Bool
  | .buttons new =>
      s.buttonState.getLsbD switchButton.bit && !new.getLsbD switchButton.bit
  | _ => false

/-- The switch button is not let go of before it was ever pushed, as it would
be by somebody who held it down while the device started. -/
def PushedBeforeRelease (s : System) (i : Input) : Prop :=
  s.letsGo i = true → lastEdge switchButton s.timeline ≠ none

instance : DecidableRel PushedBeforeRelease := fun _ _ =>
  inferInstanceAs (Decidable (_ → _))

/-- Both conditions on the order of things. -/
def SwitchInOrder (s : System) (i : Input) : Prop :=
  DimmersExpireBeforeRelease s i ∧ PushedBeforeRelease s i

instance : DecidableRel SwitchInOrder := fun _ _ =>
  inferInstanceAs (Decidable (_ ∧ _))

/-! ## The view and the phase it is in -/

structure SwitchView where
  queued : List Letter
  trigger : Option Running
  dimmer : Option Running
  wasDimmerTriggered : Bool
  down : Bool

def AppTask.switchView (t : AppTask) (down : Bool) : SwitchView where
  queued := t.sAppEventQueue.msgs.filterMap AppEvent.letter?
  trigger := t.sDimmerPressKeyTimer.running
  dimmer := t.sDimmerTimer.running
  wasDimmerTriggered := t.sWasDimmerTriggered
  down := down

/-- The letters of a run, the ones still queued included. -/
def System.letters (s : System) : List Letter :=
  s.timeline.filterMap AppEvent.letter?

/-- The button counts as down from its first push on; a button held since the
start has not been reported to anybody. -/
def System.switchDown (s : System) : Bool :=
  s.letters.any Letter.isEdge && s.buttonState.getLsbD switchButton.bit

def System.switchView (s : System) : SwitchView :=
  s.task.switchView s.switchDown

/-- What the handlers make of a letter, with the other letters still
queued. -/
def SwitchView.take (v : SwitchView) (rest : List Letter) :
    Letter → SwitchView × List Command
  | .push =>
      ({ v with
          queued := rest
          trigger := some ⟨kDimmerTriggeredTimeout, 0⟩ }, [])
  | .release =>
      ({ v with
          queued := rest
          trigger := none
          dimmer := none
          wasDimmerTriggered := false },
        if v.wasDimmerTriggered then [] else [.toggle])
  | .trigger =>
      ({ v with
          queued := rest
          trigger := none
          dimmer := some ⟨kDimmerInterval, kDimmerInterval⟩
          wasDimmerTriggered := true }, [.on])
  | .tick => ({ v with queued := rest }, [.moveToLevel])

/-- The part of `Tracks` that depends on the phase: which timers may run,
and which of their expiries may be queued. -/
def SwitchView.PhaseIs (v : SwitchView) : Phase → Prop
  | .idle =>
      v.trigger = none ∧ v.dimmer = none ∧ v.wasDimmerTriggered = false ∧
        .trigger ∉ v.queued ∧ .tick ∉ v.queued
  | .pressed =>
      v.dimmer = none ∧ v.wasDimmerTriggered = false ∧ .tick ∉ v.queued ∧
        v.queued.count .trigger ≤ 1 ∧
        ∀ r, v.trigger = some r → r.period = 0 ∧ .trigger ∉ v.queued
  | .dimming =>
      v.trigger = none ∧ v.wasDimmerTriggered = true ∧ .trigger ∉ v.queued

structure Tracks (v : SwitchView) (p : Phase) : Prop where
  /-- The queued edges carry the button from where the gesture machine has
  it to where it is. -/
  edges : alternates (p != .idle) v.queued = some v.down
  /-- Behind a queued release no expiry is queued. -/
  order : ∀ pre post, v.queued = pre ++ .release :: post →
    .trigger ∉ post ∧ .tick ∉ post
  phase : v.PhaseIs p

namespace Tracks

variable {v : SwitchView} {p : Phase}

theorem order_concat {w : List Letter} {l : Letter}
    (h : ∀ pre post, w = pre ++ .release :: post →
      .trigger ∉ post ∧ .tick ∉ post)
    (hl : l.isEdge = false → .release ∉ w) (pre post : List Letter)
    (heq : w ++ [l] = pre ++ .release :: post) :
    .trigger ∉ post ∧ .tick ∉ post := by
  rcases split_concat heq with ⟨-, -, rfl⟩ | ⟨post', rfl, hw⟩
  · exact ⟨List.not_mem_nil, List.not_mem_nil⟩
  · obtain ⟨h1, h2⟩ := h pre post' hw
    cases l with
    | push | release => simp [h1, h2]
    | trigger | tick => exact absurd (by rw [hw]; simp) (hl rfl)

theorem edges_concat {l : Letter} (h : Tracks v p) :
    alternates (p != .idle) (v.queued ++ [l]) = alternates v.down [l] := by
  rw [alternates_append, h.edges]
  rfl

theorem push (h : Tracks v p) (hd : v.down = false) :
    Tracks { v with queued := v.queued ++ [.push], down := true } p where
  edges := by rw [h.edges_concat, hd]; rfl
  order := order_concat h.order (fun hl => by cases hl)
  phase := by
    have hp := h.phase
    cases p <;> simpa [SwitchView.PhaseIs] using hp

theorem release (h : Tracks v p) (hd : v.down = true) :
    Tracks { v with queued := v.queued ++ [.release], down := false } p where
  edges := by rw [h.edges_concat, hd]; rfl
  order := order_concat h.order (fun hl => by cases hl)
  phase := by
    have hp := h.phase
    cases p <;> simpa [SwitchView.PhaseIs] using hp

/-- The press timer expires: it is a one-shot timer, so that stops it. -/
theorem trigger_expires (h : Tracks v p) {r : Running}
    (hr : v.trigger = some r) (hno : .release ∉ v.queued) :
    r.period = 0 ∧
      Tracks { v with queued := v.queued ++ [.trigger], trigger := none }
        p := by
  have hp := h.phase
  cases p with
  | idle | dimming => exact absurd (hr.symm.trans hp.1) (by simp)
  | pressed =>
      obtain ⟨hdim, hwas, htick, -, htrig⟩ := hp
      obtain ⟨hper, hq⟩ := htrig r hr
      refine ⟨hper, ?_, order_concat h.order (fun _ => hno), ?_⟩
      · rw [h.edges_concat]
        cases v.down <;> rfl
      · refine ⟨hdim, hwas, by simpa using htick, ?_, fun r hr => by cases hr⟩
        rw [List.count_append, List.count_eq_zero.mpr hq]
        decide

/-- The dimmer timer expires. It only runs in the dimming phase, and there
nothing depends on whether it runs on. -/
theorem dimmer_expires (h : Tracks v p) {r : Running}
    (hr : v.dimmer = some r) (hno : .release ∉ v.queued)
    (dimmer : Option Running) :
    Tracks { v with queued := v.queued ++ [.tick], dimmer := dimmer } p := by
  have hp := h.phase
  cases p with
  | idle => exact absurd (hr.symm.trans hp.2.1) (by simp)
  | pressed => exact absurd (hr.symm.trans hp.1) (by simp)
  | dimming =>
      refine ⟨?_, order_concat h.order (fun _ => hno), ?_⟩
      · rw [h.edges_concat]
        cases v.down <;> rfl
      · exact ⟨hp.1, hp.2.1, by simpa using hp.2.2⟩

/-- The next queued letter is one the gesture machine can read, the handlers
give its answer, and the view they leave is in the phase it goes to. -/
theorem take (h : Tracks v p) {l : Letter} {rest : List Letter}
    (hq : v.queued = l :: rest) :
    ∃ p', Gesture.step p l = some (p', (v.take rest l).2) ∧
      Tracks (v.take rest l).1 p' := by
  have hedges := h.edges
  have hp := h.phase
  have horder : ∀ pre post, rest = pre ++ .release :: post →
      .trigger ∉ post ∧ .tick ∉ post := fun pre post heq =>
    h.order (l :: pre) post (by rw [hq, heq, List.cons_append])
  rw [hq] at hedges
  cases p with
  | idle =>
      obtain ⟨htrig, hdim, hwas, hntrig, hntick⟩ := hp
      rw [hq] at hntrig hntick
      cases l with
      | push =>
          have hrest : .trigger ∉ rest := fun hm =>
            hntrig (List.mem_cons_of_mem _ hm)
          have hzero : rest.count .trigger = 0 := List.count_eq_zero.mpr hrest
          refine ⟨.pressed, rfl, hedges, horder, hdim, hwas, ?_,
            Nat.le_trans (Nat.le_of_eq hzero) (Nat.zero_le 1), ?_⟩
          · exact fun hm => hntick (List.mem_cons_of_mem _ hm)
          · intro r hr
            injection hr with hr
            exact ⟨by rw [← hr], hrest⟩
      | release => cases hedges
      | trigger => exact absurd List.mem_cons_self hntrig
      | tick => exact absurd List.mem_cons_self hntick
  | pressed =>
      obtain ⟨hdim, hwas, hntick, hcount, htrig⟩ := hp
      rw [hq] at hntick hcount
      cases l with
      | push => cases hedges
      | release =>
          obtain ⟨h1, h2⟩ := h.order [] rest hq
          refine ⟨.idle, ?_, hedges, horder, rfl, rfl, rfl, h1, h2⟩
          rw [SwitchView.take, hwas]
          rfl
      | trigger =>
          rw [List.count_cons_self] at hcount
          have hzero : rest.count .trigger = 0 := by omega
          exact ⟨.dimming, rfl, hedges, horder, rfl, rfl,
            List.count_eq_zero.mp hzero⟩
      | tick => exact absurd List.mem_cons_self hntick
  | dimming =>
      obtain ⟨htrig, hwas, hntrig⟩ := hp
      rw [hq] at hntrig
      cases l with
      | push => cases hedges
      | release =>
          obtain ⟨h1, h2⟩ := h.order [] rest hq
          refine ⟨.idle, ?_, hedges, horder, rfl, rfl, rfl, h1, h2⟩
          rw [SwitchView.take, hwas]
          rfl
      | trigger => exact absurd List.mem_cons_self hntrig
      | tick =>
          exact ⟨.dimming, rfl, hedges, horder, htrig, hwas,
            fun hm => hntrig (List.mem_cons_of_mem _ hm)⟩

end Tracks

/-! ## The application, seen through the view -/

section Dispatch

variable {cfg : Config} (env : Commissioning) (t : AppTask)

theorem commands_eq_nil {effects : List Effect}
    (h : ∀ x ∈ effects, x.command? = none) :
    effects.filterMap Effect.command? = [] :=
  List.filterMap_eq_nil_iff.mpr h

/-- A dispatch is the letter's transition of the view, or none at all. -/
theorem dispatchEvent_view (hfour : cfg.twoButtons = false) (down : Bool)
    (e : AppEvent) :
    ((t.dispatchEvent cfg env e).1.switchView down,
        (t.dispatchEvent cfg env e).2.filterMap Effect.command?) =
      match e.letter? with
      | some l =>
          (t.switchView down).take (t.switchView down).queued l
      | none => (t.switchView down, []) := by
  apply AppTask.dispatchEvent_cases cfg env t e (motive := fun r =>
    (r.1.switchView down, r.2.filterMap Effect.command?) =
      match e.letter? with
      | some l => (t.switchView down).take (t.switchView down).queued l
      | none => (t.switchView down, []))
  case functionPushed | triggerExpired | dimmerExpired =>
    intro hk
    simp only [AppEvent.letter?, hk]
    rfl
  case switchPushed =>
    intro hk _
    simp only [AppEvent.letter?, hk]
    rfl
  case functionReleased =>
    intro hk
    obtain ⟨_, _, _, hr, hx⟩ := AppTask.functionButtonReleased_eq cfg t
    simp only [AppEvent.letter?, hk, hr]
    rw [commands_eq_nil fun x h => by rcases hx x h with rfl | rfl <;> rfl]
    rfl
  case switchReleased =>
    intro hk _
    simp only [AppEvent.letter?, hk]
    refine Prod.ext rfl ?_
    show (if t.sWasDimmerTriggered then [] else
        [Effect.initiateActionSwitch .toggle]).filterMap Effect.command? =
      if t.sWasDimmerTriggered then [] else [.toggle]
    cases t.sWasDimmerTriggered <;> rfl
  case functionExpired =>
    intro hk
    simp only [AppEvent.letter?, hk]
    rcases AppTask.functionTimerExpired_eq cfg t with
      ⟨-, _, _, _, hr⟩ | ⟨-, hr⟩ <;> rw [hr] <;> rfl
  case unused =>
    intro pinNo hf hs hk
    have hnone : e.letter? = none := by
      rcases hk with hk | hk <;> cases pinNo <;>
        simp_all [AppEvent.letter?]
    rw [hnone]
    rfl
  case pushIgnored | advertises =>
    intro _ htwo
    rw [mayAdvertise, hfour] at htwo
    cases htwo
  case other =>
    intro hk effects hx
    simp only [AppEvent.letter?, hk]
    rw [commands_eq_nil fun x h => by rw [hx x h]; rfl]
    rfl

end Dispatch

/-! ## The record, seen as a word -/

/-- The letters dispatched so far, each with the commands it initiated. -/
def word (dispatched : List Dispatch) : List (Letter × List Command) :=
  dispatched.filterMap fun d => d.event.letter?.map (·, d.commands)

/-- Dispatches that are no letter initiate no command. -/
def Silent (dispatched : List Dispatch) : Prop :=
  ∀ d ∈ dispatched, d.event.letter? = none → d.commands = []

theorem Silent.concat {ds : List Dispatch} {d : Dispatch} (h : Silent ds)
    (hd : d.event.letter? = none → d.commands = []) : Silent (ds ++ [d]) := by
  intro d' hd' hnone
  rcases List.mem_append.mp hd' with hd' | hd'
  · exact h d' hd' hnone
  · rw [List.mem_singleton.mp hd'] at hnone ⊢
    exact hd hnone

theorem word_append (ds es : List Dispatch) :
    word (ds ++ es) = word ds ++ word es := List.filterMap_append

theorem word_cons_some {d : Dispatch} {l : Letter} (ds : List Dispatch)
    (h : d.event.letter? = some l) :
    word (d :: ds) = (l, d.commands) :: word ds :=
  List.filterMap_cons_some (by rw [h]; rfl)

theorem word_cons_none {d : Dispatch} (ds : List Dispatch)
    (h : d.event.letter? = none) : word (d :: ds) = word ds :=
  List.filterMap_cons_none (by rw [h]; rfl)

theorem commands_word {ds : List Dispatch} (h : Silent ds) :
    commands (word ds) = ds.flatMap Dispatch.commands := by
  induction ds with
  | nil => rfl
  | cons d ds ih =>
      have ih := ih fun d' hd' => h d' (List.mem_cons_of_mem d hd')
      rw [List.flatMap_cons]
      cases hl : d.event.letter? with
      | none =>
          rw [word_cons_none ds hl, ih, h d List.mem_cons_self hl,
            List.nil_append]
      | some l =>
          rw [word_cons_some ds hl, commands, List.flatMap_cons, ← ih]
          rfl

def Edge.letter : Edge → Letter
  | .push => .push
  | .release => .release

theorem letter_of_edge {e : AppEvent} {edge : Edge}
    (h : e.edge? switchButton = some edge) :
    e.letter? = some edge.letter := by
  cases edge with
  | push => simp only [AppEvent.letter?, edge_push.mp h, Edge.letter]
  | release => simp only [AppEvent.letter?, edge_release.mp h, Edge.letter]

theorem isEdge_of_edge_none {e : AppEvent} {l : Letter}
    (h : e.edge? switchButton = none) (hl : e.letter? = some l) :
    l.isEdge = false := by
  unfold AppEvent.edge? at h
  unfold AppEvent.letter? at hl
  cases l with
  | trigger | tick => rfl
  | push | release => split at hl <;> simp_all

/-- The gesture machine and the application agree on the last edge. -/
theorem lastEdge_word (ds : List Dispatch) :
    Gesture.lastEdge (word ds) =
      (lastEdge switchButton (ds.map (·.event))).map Edge.letter := by
  have hedges : ((word ds).map (·.1)).filter Letter.isEdge =
      ((ds.map (·.event)).filterMap (·.edge? switchButton)).map
        Edge.letter := by
    induction ds with
    | nil => rfl
    | cons d ds ih =>
        rw [List.map_cons]
        cases he : d.event.edge? switchButton with
        | some edge =>
            rw [word_cons_some ds (letter_of_edge he),
              List.filterMap_cons_some he, List.map_cons,
              List.filter_cons_of_pos (by cases edge <;> rfl), ih]
            rfl
        | none =>
            rw [List.filterMap_cons_none he, ← ih]
            cases hl : d.event.letter? with
            | none => rw [word_cons_none ds hl]
            | some l =>
                rw [word_cons_some ds hl, List.map_cons,
                  List.filter_cons_of_neg
                    (by rw [isEdge_of_edge_none he hl]; decide)]
  rw [Gesture.lastEdge, hedges, List.getLast?_map, lastEdge]

/-! ## The invariant over a step -/

/-- As long as no post has failed, the gesture machine has read the letters
dispatched so far, and the view is in the phase that led it to. -/
def SwitchInv (s : System) : Prop :=
  s.task.failedPosts = 0 →
    Silent s.dispatched ∧
      ∃ p, Accepts .idle (word s.dispatched) p ∧ Tracks s.switchView p

/-- The view after posting some events, by a context that may also have
changed the timers or the button. -/
theorem switchView_posts (s : System) (t : AppTask)
    (q : MsgQueue AppEvent kAppEventQueueSize) (buttonState : BitVec 32)
    {events : List AppEvent} {w : List Letter}
    (hq : q.msgs = s.task.sAppEventQueue.msgs ++ events)
    (hw : events.filterMap AppEvent.letter? = w) :
    System.switchView
        { s with task := { t with sAppEventQueue := q }, buttonState } =
      { queued := s.switchView.queued ++ w
        trigger := t.sDimmerPressKeyTimer.running
        dimmer := t.sDimmerTimer.running
        wasDimmerTriggered := t.sWasDimmerTriggered
        down := (s.letters ++ w).any Letter.isEdge &&
          buttonState.getLsbD switchButton.bit } := by
  subst hw
  have hletters : System.letters
      { s with task := { t with sAppEventQueue := q }, buttonState } =
        s.letters ++ events.filterMap AppEvent.letter? := by
    show (s.dispatched.map (·.event) ++ q.msgs).filterMap _ = _
    rw [hq, ← List.append_assoc, List.filterMap_append]
    rfl
  rw [System.switchView, System.switchDown, hletters]
  show SwitchView.mk (q.msgs.filterMap _) _ _ _ _ = _
  rw [hq, List.filterMap_append]
  rfl

theorem SwitchInv.of_view {s s' : System} (h : SwitchInv s)
    (hf : s.task.failedPosts ≤ s'.task.failedPosts)
    (hd : s'.dispatched = s.dispatched)
    (hv : s'.task.failedPosts = 0 → ∀ p, Tracks s.switchView p →
      Tracks s'.switchView p) : SwitchInv s' := by
  intro hzero
  obtain ⟨hsilent, p, hacc, htracks⟩ := h (by omega)
  rw [hd]
  exact ⟨hsilent, p, hacc, hv hzero p htracks⟩

/-- Posting an event that is no letter. -/
theorem SwitchInv.of_post {s : System} (h : SwitchInv s) {e : AppEvent}
    (he : e.letter? = none) :
    SwitchInv { s with task := s.task.postEvent e } := by
  refine h.of_view (s.task.failedPosts_posts [e]) rfl fun hzero p ht => ?_
  obtain ⟨q, hq, hmsgs⟩ :=
    s.task.postEvent_eq hzero
  rw [hq, switchView_posts s s.task q s.buttonState hmsgs
    (List.filterMap_cons_none he), List.filterMap_nil, List.append_nil,
    List.append_nil]
  exact ht

/-- The letters a button scan posts: the switch button's edge, if it has
one. -/
theorem letters_buttonEvents (cfg : Config) (old new : BitVec 32) :
    (AppTask.buttonEvents cfg new (old ^^^ new)).filterMap AppEvent.letter? =
      match old.getLsbD switchButton.bit, new.getLsbD switchButton.bit with
      | false, true => [.push]
      | true, false => [.release]
      | _, _ => [] := by
  have hfunction : (AppTask.edgeEvents functionButton new
      (old ^^^ new)).filterMap AppEvent.letter? = [] := by
    rw [AppTask.edgeEvents_xor]
    split <;> rfl
  have hble : (if cfg.twoButtons then []
      else if bleAdvertisementStartButton.msk &&& (old ^^^ new) &&& new
          ≠ 0#32 then
        [AppTask.startBLEAdvertisementEvent bleAdvertisementStartButton]
      else []).filterMap AppEvent.letter? = [] := by
    split
    · rfl
    · split <;> rfl
  rw [AppTask.buttonEvents, List.filterMap_append, List.filterMap_append,
    hfunction, hble, AppTask.edgeEvents_xor, List.nil_append, List.append_nil]
  cases old.getLsbD switchButton.bit <;> cases new.getLsbD switchButton.bit <;>
    rfl

theorem any_isEdge_letters {s : System}
    (h : lastEdge switchButton s.timeline ≠ none) :
    s.letters.any Letter.isEdge = true := by
  obtain ⟨edge, hlast⟩ := Option.ne_none_iff_exists'.mp h
  obtain ⟨e, he, hedge⟩ :=
    List.mem_filterMap.mp (List.mem_of_getLast? hlast)
  refine List.any_eq_true.mpr ⟨edge.letter, ?_, by cases edge <;> rfl⟩
  exact List.mem_filterMap.mpr ⟨e, he, letter_of_edge hedge⟩

theorem SwitchInv.buttons {cfg : Config} {s : System} (h : SwitchInv s)
    {new : BitVec 32} (hi : PushedBeforeRelease s (.buttons new)) :
    SwitchInv (s.step cfg (.buttons new)) := by
  refine h.of_view (s.task.failedPosts_posts _) rfl fun hzero p ht => ?_
  obtain ⟨q, hq, hmsgs⟩ :=
    s.task.posts_eq hzero
  have hdown : s.switchView.down = (s.letters.any Letter.isEdge &&
      s.buttonState.getLsbD switchButton.bit) := rfl
  rw [System.step, AppTask.buttonEventHandler, hq,
    switchView_posts s s.task q new hmsgs
      (letters_buttonEvents cfg s.buttonState new)]
  cases hold : s.buttonState.getLsbD switchButton.bit <;>
    cases hnew : new.getLsbD switchButton.bit <;> rw [hold] at hdown
  case false.true =>
    rw [List.any_append, Bool.and_true, Bool.or_comm]
    exact ht.push (hdown.trans (Bool.and_false _))
  case true.false =>
    have hseen := any_isEdge_letters (hi (by simp [System.letsGo, hold, hnew]))
    rw [hseen] at hdown
    rw [Bool.and_false]
    exact ht.release hdown
  all_goals
    rw [List.append_nil, List.append_nil, ← hdown]
    exact ht

theorem SwitchInv.timerExpiry {s : System} (h : SwitchInv s) {timer : Timer}
    (hi : DimmersExpireBeforeRelease s (.timerExpiry timer)) :
    SwitchInv { s with task := s.task.timerExpiry timer } := by
  unfold AppTask.timerExpiry
  split
  next hrun =>
    obtain ⟨r, hr⟩ := Option.isSome_iff_exists.mp hrun
    have hno : (timer = .dimmerTrigger ∨ timer = .dimmer) →
        .release ∉ s.switchView.queued := by
      intro htimer hmem
      obtain ⟨e, he, hl⟩ := List.mem_filterMap.mp hmem
      have hkind : e.kind = .released switchButton := by
        unfold AppEvent.letter? at hl
        split at hl <;> simp_all
      refine hi ?_ e he (edge_release.mpr hkind)
      rcases htimer with rfl | rfl
      · exact Or.inl ⟨rfl, hrun⟩
      · exact Or.inr ⟨rfl, hrun⟩
    refine h.of_view ?_ rfl fun hzero p ht => ?_
    · refine Nat.le_trans ?_ (AppTask.failedPosts_posts _ [_])
      cases timer <;> exact Nat.le_refl _
    obtain ⟨q, hq, hmsgs⟩ := AppTask.postEvent_eq _ hzero
    have hsame : (s.task.setTimer timer
        (s.task.timer timer).expire).sAppEventQueue.msgs =
          s.task.sAppEventQueue.msgs := by cases timer <;> rfl
    have hv := fun w => switchView_posts s
      (s.task.setTimer timer (s.task.timer timer).expire) q s.buttonState
      (w := w) (by rw [hmsgs, hsame])
    rw [hq]
    cases timer with
    | function =>
        rw [hv [] rfl, List.append_nil, List.append_nil]
        exact ht
    | dimmerTrigger =>
        obtain ⟨hper, htracks⟩ := ht.trigger_expires hr (hno (Or.inl rfl))
        have hstop : s.task.sDimmerPressKeyTimer.expire.running = none :=
          KTimer.running_expire_oneShot (d := r.duration)
            (by rw [← hper]; exact hr)
        rw [hv [.trigger] rfl, List.any_append, List.any_cons, List.any_nil,
          Letter.isEdge, Bool.or_self, Bool.or_false]
        simp only [AppTask.setTimer, AppTask.timer, hstop]
        exact htracks
    | dimmer =>
        have htracks := ht.dimmer_expires hr (hno (Or.inr rfl))
          s.task.sDimmerTimer.expire.running
        rw [hv [.tick] rfl, List.any_append, List.any_cons, List.any_nil,
          Letter.isEdge, Bool.or_self, Bool.or_false]
        exact htracks
  next => exact h

/-- Whatever the event was, dispatching it only moves it across the border
between the dispatched and the queued events. -/
theorem switchView_dispatched {s : System} {e : AppEvent}
    {q : MsgQueue AppEvent kAppEventQueueSize} {t : AppTask}
    {effects : List Effect} (hmsgs : s.task.sAppEventQueue.msgs = e :: q.msgs)
    (hqueued : t.sAppEventQueue.msgs.filterMap AppEvent.letter? =
      q.msgs.filterMap AppEvent.letter?) :
    System.switchView { s with
      task := t
      dispatched := s.dispatched ++ [⟨e, effects⟩] } =
        t.switchView s.switchDown := by
  have hletters : System.letters { s with
      task := t
      dispatched := s.dispatched ++ [⟨e, effects⟩] } = s.letters := by
    show ((s.dispatched ++ [Dispatch.mk e effects]).map (·.event) ++
      t.sAppEventQueue.msgs).filterMap AppEvent.letter? =
        (s.dispatched.map (·.event) ++ s.task.sAppEventQueue.msgs).filterMap
          AppEvent.letter?
    rw [hmsgs, List.map_append, List.map_singleton, List.append_assoc,
      List.filterMap_append, List.filterMap_append, List.filterMap_append,
      hqueued, ← List.filterMap_append, List.singleton_append]
  rw [System.switchView, System.switchDown, hletters]
  rfl

theorem SwitchInv.dispatch {cfg : Config} (hfour : cfg.twoButtons = false)
    {s : System} (h : SwitchInv s) : SwitchInv (s.dispatch cfg) := by
  rcases AppTask.dispatch_cases cfg s with ⟨-, hs⟩ |
    ⟨e, q, t, effects, hmsgs, hr, hs⟩
  · rw [hs]
    exact h
  rw [hs]
  intro hzero
  have hle := AppTask.failedPosts_dispatchEvent cfg s.commissioning
    { s.task with sAppEventQueue := q } e
  have hview := dispatchEvent_view s.commissioning
    { s.task with sAppEventQueue := q } hfour s.switchDown e
  rw [hr] at hle hview
  obtain ⟨hsilent, p, hacc, ht⟩ :=
    h (Nat.le_zero.mp (Nat.le_trans hle (Nat.le_of_eq hzero)))
  cases hl : e.letter? with
  | none =>
      rw [hl] at hview
      have hv : t.switchView s.switchDown =
          { s.switchView with
            queued := q.msgs.filterMap AppEvent.letter? } :=
        congrArg Prod.fst hview
      have hc : effects.filterMap Effect.command? = [] :=
        congrArg Prod.snd hview
      have hqueued : s.switchView.queued =
          q.msgs.filterMap AppEvent.letter? := by
        show s.task.sAppEventQueue.msgs.filterMap AppEvent.letter? = _
        rw [hmsgs, List.filterMap_cons_none hl]
      refine ⟨hsilent.concat fun _ => hc, p, ?_, ?_⟩
      · rw [word_append, word_cons_none [] hl]
        exact (List.append_nil _).symm ▸ hacc
      · rw [switchView_dispatched hmsgs (congrArg SwitchView.queued hv), hv,
          ← hqueued]
        exact ht
  | some l =>
      rw [hl] at hview
      have hv : t.switchView s.switchDown =
          (s.switchView.take (q.msgs.filterMap AppEvent.letter?) l).1 := by
        refine (congrArg Prod.fst hview).trans ?_
        cases l <;> rfl
      have hc : effects.filterMap Effect.command? =
          (s.switchView.take (q.msgs.filterMap AppEvent.letter?) l).2 := by
        refine (congrArg Prod.snd hview).trans ?_
        cases l <;> rfl
      have hqueued : s.switchView.queued =
          l :: q.msgs.filterMap AppEvent.letter? := by
        show s.task.sAppEventQueue.msgs.filterMap AppEvent.letter? = _
        rw [hmsgs, List.filterMap_cons_some hl]
      obtain ⟨p', hstep, htracks⟩ := ht.take hqueued
      have hrest : t.sAppEventQueue.msgs.filterMap AppEvent.letter? =
          q.msgs.filterMap AppEvent.letter? := by
        refine (congrArg SwitchView.queued hv).trans ?_
        cases l <;> rfl
      refine ⟨hsilent.concat fun hnone => ?_, p', ?_, ?_⟩
      · cases hl.symm.trans hnone
      · rw [word_append, word_cons_some [] hl]
        refine accepts_concat.mpr ⟨p, hacc, ?_⟩
        rw [hstep]
        exact congrArg some (Prod.ext rfl hc.symm)
      · rw [switchView_dispatched hmsgs hrest, hv]
        exact htracks

theorem switchInv_boot (cfg : Config) (buttonState : BitVec 32) :
    SwitchInv (System.boot cfg buttonState) := by
  intro _
  obtain ⟨status, factoryReset, hinit⟩ := AppTask.updateStatusLED_eq cfg {}
  refine ⟨fun d hd => absurd hd List.not_mem_nil, .idle, rfl, ?_⟩
  rw [System.switchView, System.boot, AppTask.init, hinit]
  refine ⟨rfl, fun pre post heq => ?_, rfl, rfl, rfl, ?_, ?_⟩
  · exact absurd (show [] = pre ++ .release :: post from heq) (by simp)
  · exact List.not_mem_nil
  · exact List.not_mem_nil

theorem SwitchInv.step {cfg : Config} (hfour : cfg.twoButtons = false)
    {s : System} {i : Input} (h : SwitchInv s) (hi : SwitchInOrder s i) :
    SwitchInv (s.step cfg i) := by
  cases i with
  | buttons new => exact h.buttons hi.2
  | timerExpiry timer => exact h.timerExpiry hi.1
  | dispatch => exact h.dispatch hfour
  | identifyStart | identifyStop | ledStateUpdate => exact h.of_post rfl
  | chipEvent event =>
      obtain ⟨_, _, _, _, _, hc⟩ :=
        AppTask.chipEventHandler_eq cfg s.task event
      rw [System.step, hc]
      exact h
  | commissioning env => exact h

/-! ## From the invariant to the promise -/

theorem SwitchInv.gestures {s : System} (h : SwitchInv s)
    (hposts : s.task.failedPosts = 0) : SwitchGestures s := by
  obtain ⟨hsilent, p, hacc, htracks⟩ := h hposts
  refine ⟨?_, ?_, fun hlast => ?_⟩
  · intro pre d₁ mid d₂ post hd hpush hrelease hmid
    rw [hd] at hacc hsilent
    rw [word_append, word_cons_some _ (letter_of_edge hpush), word_append,
      word_cons_some _ (letter_of_edge hrelease)] at hacc
    rw [← commands_word fun d hm => hsilent d (by simp [hm])]
    refine gesture_commands hacc fun x hx => ?_
    obtain ⟨d, hdm, hdx⟩ := List.mem_filterMap.mp hx
    obtain ⟨l, hl, rfl⟩ := Option.map_eq_some_iff.mp hdx
    exact isEdge_of_edge_none (hmid d hdm) hl
  · intro pre d post hd hne
    cases hl : d.event.letter? with
    | none => exact absurd (hsilent d (by rw [hd]; simp) hl) hne
    | some l =>
        have hword : word s.dispatched =
            word pre ++ (l, d.commands) :: word post := by
          rw [hd, word_append, word_cons_some _ hl]
        have hlast := commands_in_gesture hacc _ _ _ hword hne
        rw [lastEdge_word] at hlast
        obtain ⟨edge, hedge, heq⟩ := Option.map_eq_some_iff.mp hlast
        rw [hedge]
        cases edge with
        | push => rfl
        | release => cases heq
  · have hidle : p = .idle := by
      by_contra hp
      have hpush := (phase_lastEdge hacc).mp hp
      rw [lastEdge_word] at hpush
      obtain ⟨edge, hedge, heq⟩ := Option.map_eq_some_iff.mp hpush
      cases edge with
      | push => exact hlast hedge
      | release => cases heq
    have hp := htracks.phase
    rw [hidle] at hp
    exact ⟨hp.2.1, hp.2.2.1⟩

/-! ## The runs -/

/-- In every run of the four-button build that loses no event, in which the
dimmer timers expire before a release and not behind it, and in which no
release comes ahead of every push, the switch button keeps its promise. -/
theorem switch_gestures (cfg : Config) (hfour : cfg.twoButtons = false)
    (buttonState : BitVec 32) (inputs : List Input)
    (h : Along (System.step cfg) SwitchInOrder
      (System.boot cfg buttonState) inputs)
    (hposts : (System.after cfg buttonState inputs).task.failedPosts = 0) :
    SwitchGestures (System.after cfg buttonState inputs) :=
  (run_inv_along (fun _ _ hs hi => hs.step hfour hi)
    (switchInv_boot cfg buttonState) h).gestures hposts

/-- A long press, from the push to the release, with one level step. -/
theorem switch_gestures_long_press :
    let cfg : Config := ⟨false, true, true, true⟩
    let inputs : List Input := [.buttons 2, .dispatch,
      .timerExpiry .dimmerTrigger, .dispatch, .timerExpiry .dimmer, .dispatch,
      .buttons 0, .dispatch]
    SwitchGestures (System.after cfg 0 inputs) ∧
      (System.after cfg 0 inputs).dispatched.flatMap Dispatch.commands =
        [.on, .moveToLevel] :=
  ⟨switch_gestures _ rfl 0 _ (by decide) (by decide), by decide⟩

/-- The trigger expires behind a release that is still queued. The release
toggles the light; the expiry then switches it on and starts the dimmer, and
the level is stepped with the button up. -/
theorem stale_trigger_dims :
    let cfg : Config := ⟨false, true, true, true⟩
    let s := System.after cfg 0 [.buttons 2, .dispatch, .buttons 0,
      .timerExpiry .dimmerTrigger, .dispatch, .dispatch,
      .timerExpiry .dimmer, .dispatch]
    s.task.failedPosts = 0 ∧
      s.dispatched.map Dispatch.commands =
        [[], [.toggle], [.on], [.moveToLevel]] ∧
      ¬ SwitchGestures s := by
  refine ⟨by decide, by decide, fun h => ?_⟩
  exact absurd (h.idle (by decide)).2 (by decide)

end SmartHome.LightSwitch
