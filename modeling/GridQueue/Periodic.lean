/-
# `GridQueue.Periodic` — work that is done again and again

A periodic task has a tick at its start and one an interval after each
tick.  It does its work at every tick; runs never overlap, so a tick that
comes during a run waits for its end.  A tick that is served late by more
than `tolerance` moves those after it: the next one comes an interval
after the late service.  When it is told to stop the task ends the run in
hand and starts no other, whether runs succeed or fail.

Times are milliseconds from the start of the task.
-/

namespace GridQueue.Periodic

/-- A periodic task. -/
structure Task where
  name : String
  interval : Nat
  interval_pos : 0 < interval
  /-- Leave out the tick at the start. -/
  delayFirst : Bool := false

/-- A run of the task. -/
structure Run where
  start : Nat
  finish : Nat
  deriving DecidableEq

/-- How late a tick may be served without moving those after it. -/
def tolerance : Nat := 5

/-- The tick after one that was due at a time and served at another. -/
def Task.nextTick (t : Task) (due served : Nat) : Nat :=
  if due + tolerance < served then served + t.interval else due + t.interval

theorem Task.lt_nextTick (t : Task) (due served : Nat) : due < t.nextTick due served := by
  have := t.interval_pos
  unfold nextTick
  split <;> omega

/-- The runs of a task that is told to stop, from the tick due at a time
on; the task is busy until `free`, and run number `n` lasts
`duration n`. -/
def Task.runsFrom (t : Task) (duration : Nat → Nat) (stop n due free : Nat) : List Run :=
  let start := max due free
  if h : start < stop then
    let finish := start + duration n
    ⟨start, finish⟩ :: t.runsFrom duration stop (n + 1) (t.nextTick due start) finish
  else []
termination_by stop - due
decreasing_by
  have := t.lt_nextTick due (max due free)
  omega

/-- The runs of a task that is told to stop. -/
def Task.runs (t : Task) (duration : Nat → Nat) (stop : Nat) : List Run :=
  t.runsFrom duration stop 0 (if t.delayFirst then t.interval else 0) 0

def Task.stopped (t : Task) (duration : Nat → Nat) (stop : Nat) : Nat :=
  (t.runs duration stop).foldl (fun latest r => max latest r.finish) stop

/-- The number of runs that started before a time. -/
def startedBefore (runs : List Run) (time : Nat) : Nat :=
  runs.countP fun r => decide (r.start < time)

end GridQueue.Periodic
