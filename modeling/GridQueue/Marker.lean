/-
# `GridQueue.Marker` — taking turns

Instances that share a store take turns at a periodic task by a marker of
the task's name: whoever finds the marker old enough moves it to now and
runs.  The marker may be a little younger than the interval, so that a
tick that comes slightly early is not skipped.

    interval    old enough after
    10 min      9 min 30 s
    1 min       54 s
    1 s         0.9 s
-/
import GridQueue.Time.Instant

namespace GridQueue

/-- When a task was last taken, and by whom. -/
structure Marker where
  takenAt : Instant
  owner : String

namespace Marker

/-- The most a task may come early. -/
def maxSlack : Span := .ofSeconds 30

/-- The age a marker must have for a task that ticks at an interval: a
tenth of the interval less than it, but at most `maxSlack` less. -/
def minAge (interval : Span) : Span :=
  ⟨interval.nanos - min (interval.nanos / 10) maxSlack.nanos⟩

end Marker

end GridQueue
