/-!
# The browser's interval timers

`setInterval` makes a live timer under an id that no timer had before, and
`clearInterval` kills the timer with the id it is given, or nothing if there
is none. That no two live timers share an id, and that the next id is a new
one, are fields of the structure. A handle is what a page keeps of an id: it
is undefined until the page first assigns it.
-/

namespace SmartHome.Browser

structure Interval where
  id : Nat
  delay : Nat
deriving DecidableEq, Repr

structure Intervals where
  live : List Interval
  nextId : Nat
  fresh : ∀ t ∈ live, t.id < nextId
  nodup : (live.map (·.id)).Nodup

namespace Intervals

def empty : Intervals := ⟨[], 0, by simp, by simp⟩

/-- `setInterval`: the id of the new timer, and the timers with it. -/
def set (ts : Intervals) (delay : Nat) : Nat × Intervals :=
  (ts.nextId,
    { live := ts.live ++ [⟨ts.nextId, delay⟩]
      nextId := ts.nextId + 1
      fresh := by
        intro t ht
        rcases List.mem_append.mp ht with ht | ht
        · exact Nat.lt_succ_of_lt (ts.fresh t ht)
        · rw [List.mem_singleton.mp ht]
          exact Nat.lt_succ_self _
      nodup := by
        rw [List.map_append, List.nodup_append]
        refine ⟨ts.nodup, by simp, fun a ha b hb => ?_⟩
        obtain ⟨t, ht, rfl⟩ := List.mem_map.mp ha
        rw [List.mem_singleton.mp hb]
        exact Nat.ne_of_lt (ts.fresh t ht) })

/-- `clearInterval`. -/
def clear (ts : Intervals) (handle : Option Nat) : Intervals where
  live := ts.live.filter fun t => some t.id != handle
  nextId := ts.nextId
  fresh := fun t ht => ts.fresh t ((List.mem_filter.mp ht).1)
  nodup := (List.filter_sublist.map _).nodup ts.nodup

@[simp] theorem live_set (ts : Intervals) (delay : Nat) :
    (ts.set delay).2.live = ts.live ++ [⟨(ts.set delay).1, delay⟩] := rfl

theorem live_clear (ts : Intervals) (handle : Option Nat) :
    (ts.clear handle).live = ts.live.filter fun t => some t.id != handle :=
  rfl

/-- Clearing the only live timer leaves none. -/
theorem live_clear_self {ts : Intervals} {t : Interval}
    (h : ts.live = [t]) : (ts.clear (some t.id)).live = [] := by
  rw [live_clear, h]
  simp

end Intervals

end SmartHome.Browser
