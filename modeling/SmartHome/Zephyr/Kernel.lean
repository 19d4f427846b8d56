/-!
# The two Zephyr kernel objects the firmware is built on

A message queue is a bounded FIFO: `put` fails on a full queue and otherwise
appends, `get` takes the oldest message. The bound is a field of the
structure, so an over-full queue cannot be written down.

A timer is either running, with the duration and period it was started
with, or stopped. Starting a running timer restarts it. An expiry is
something that happens to a running timer: a one-shot timer, started with
period zero, is stopped by it, and a periodic one runs on. Nothing here
touches a message queue, so whatever an expiry callback has already queued
stays queued when the timer is stopped. `generation` is not part of the
kernel: it counts the starts and stops, so that an expiry can say which
start it belongs to and whether that start is still the latest word.
-/

namespace SmartHome.Zephyr

universe u

/-- A `k_msgq` of capacity `cap`, oldest message first. -/
structure MsgQueue (α : Type u) (cap : Nat) where
  msgs : List α
  length_le : msgs.length ≤ cap

namespace MsgQueue

variable {α : Type u} {cap : Nat}

def empty : MsgQueue α cap := ⟨[], Nat.zero_le _⟩

/-- `k_msgq_put` with `K_NO_WAIT`. -/
def put (q : MsgQueue α cap) (a : α) : Option (MsgQueue α cap) :=
  if h : q.msgs.length < cap then
    some ⟨q.msgs ++ [a], by rw [List.length_append]; exact h⟩
  else none

/-- `k_msgq_get`; `none` is the task still waiting for a message. -/
def get : MsgQueue α cap → Option (α × MsgQueue α cap)
  | ⟨[], _⟩ => none
  | ⟨a :: rest, h⟩ => some (a, ⟨rest, Nat.le_of_succ_le h⟩)

theorem put_msgs {q q' : MsgQueue α cap} {a : α} (h : q.put a = some q') :
    q'.msgs = q.msgs ++ [a] := by
  unfold put at h
  split at h
  · injection h with h
    subst h
    rfl
  · cases h

theorem get_none {q : MsgQueue α cap} (h : q.get = none) : q.msgs = [] := by
  rcases q with ⟨_ | ⟨b, rest⟩, hlen⟩
  · rfl
  · cases h

theorem get_msgs {q q' : MsgQueue α cap} {a : α} (h : q.get = some (a, q')) :
    q.msgs = a :: q'.msgs := by
  rcases q with ⟨_ | ⟨b, rest⟩, hlen⟩
  · cases h
  · injection h with h
    injection h with ha hq
    rw [← ha, ← hq]

end MsgQueue

/-- What `k_timer_start` was last told: `K_MSEC(duration)` and the period,
zero for `K_NO_WAIT`. -/
structure Running where
  duration : Nat
  period : Nat
deriving DecidableEq, Repr

structure KTimer where
  running : Option Running := none
  generation : Nat := 0
deriving DecidableEq, Repr

namespace KTimer

/-- `k_timer_start`. -/
def start (t : KTimer) (duration period : Nat) : KTimer :=
  ⟨some ⟨duration, period⟩, t.generation + 1⟩

/-- `k_timer_stop`. -/
def stop (t : KTimer) : KTimer := ⟨none, t.generation + 1⟩

/-- What an expiry leaves of the timer. -/
def expire (t : KTimer) : KTimer :=
  match t.running with
  | some ⟨_, 0⟩ => { t with running := none }
  | _ => t

theorem running_expire_oneShot {t : KTimer} {d : Nat}
    (h : t.running = some ⟨d, 0⟩) : t.expire.running = none := by
  simp only [expire, h]

/-- An expiry is no new start. -/
theorem generation_expire (t : KTimer) :
    t.expire.generation = t.generation := by
  unfold expire
  split <;> rfl

end KTimer

end SmartHome.Zephyr
