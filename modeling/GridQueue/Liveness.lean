/-
# `GridQueue.Liveness` — giving up silent jobs

A job in flight that was not heard from for `zombieAfter` becomes a
zombie, and a zombie that was not heard from for `expireAfter` more
expires.  A sweep makes both passes in this order, so a job that was
silent long enough goes through both at once.  Each pass first collects
its candidates and then moves them one by one, each only if it still is
silent.
-/
import GridQueue.Marker
import GridQueue.Service.Call
import GridQueue.Settings

namespace GridQueue.Liveness

/-- The name of the marker under which instances take turns. -/
def markerName : String := "liveness"

/-- What a pass did. -/
structure PassCounts where
  candidates : Nat := 0
  moved : Nat := 0
  /-- Jobs that were heard from meanwhile. -/
  skipped : Nat := 0
  failed : Nat := 0
  deriving DecidableEq

/-- What a cycle did. -/
inductive Report
  /-- another instance swept within the interval -/
  | skipped
  | completed (zombie expired : PassCounts) (duration : Span)
  deriving DecidableEq

/-- The number of moves of a cycle. -/
def Report.moved : Report → Nat
  | skipped => 0
  | completed zombie expired _ => zombie.moved + expired.moved

/-- Tries to move one job and counts how that went. -/
def move (sources : List Status) (target : Status) (cutoff : Instant) (counts : PassCounts)
    (job : StaleJob) : Action PassCounts := do
  match ← Action.store (.transitionIfStale job.jobId sources target cutoff) with
  | .ok true =>
      Action.note (.silentJob target.name true)
      return { counts with moved := counts.moved + 1 }
  | .ok false =>
      Action.note (.silentJob target.name false)
      return { counts with skipped := counts.skipped + 1 }
  | .error _ => return { counts with failed := counts.failed + 1 }

def moveAll (sources : List Status) (target : Status) (cutoff : Instant) :
    PassCounts → List StaleJob → Action PassCounts
  | counts, [] => return counts
  | counts, job :: rest => do
      let counts ← move sources target cutoff counts job
      moveAll sources target cutoff counts rest

/-- Moves the jobs in some statuses that were silent since a cutoff. -/
def pass (sources : List Status) (target : Status) (cutoff : Instant) :
    Action (Except StoreError PassCounts) := do
  match ← Action.store (.staleJobs sources cutoff) with
  | .error e => return .error e
  | .ok candidates =>
      return .ok (← moveAll sources target cutoff { candidates := candidates.length } candidates)

/-- The instant so long before `now`. -/
def cutoff (now : Instant) (d : Span) : Except StoreError Instant :=
  match now.back? d with
  | some t => .ok t
  | none => .error (.corrupt ("liveness threshold: " ++ Span.uncountableText))

/-- Silence since before the first instant makes a zombie, silence since
before the second ends a zombie.  Thresholds so long that their sum is no
span, or that lead back beyond the calendar, end the task that sweeps. -/
def cutoffs (settings : LivenessSettings) (now : Instant) :
    Except StoreError (Instant × Instant) := do
  let zombie ← cutoff now settings.zombieAfter
  let expired ← cutoff now ⟨settings.zombieAfter.nanos + settings.expireAfter.nanos⟩
  return (zombie, expired)

def passes (zombieCutoff expiredCutoff : Instant) :
    Action (Except StoreError (PassCounts × PassCounts)) := do
  match ← pass Status.inFlight .zombie zombieCutoff with
  | .error e => return .error e
  | .ok zombie =>
      match ← pass [.zombie] .expired expiredCutoff with
      | .error e => return .error e
      | .ok expired => return .ok (zombie, expired)

def sweep (settings : LivenessSettings) (now : Instant) :
    Action (Except StoreError Report) := do
  let started ← Action.stopwatch
  match cutoffs settings now with
  | .error e => return .error e
  | .ok (zombieCutoff, expiredCutoff) =>
      match ← passes zombieCutoff expiredCutoff with
      | .error e => return .error e
      | .ok (zombie, expired) =>
          let duration := Span.between started (← Action.stopwatch)
          Action.note (.sweepEnded duration.inSeconds)
          return .ok (.completed zombie expired duration)

/-- Sweeps unless another instance did within the interval. -/
def cycleAt (settings : LivenessSettings) (owner : String) (now : Instant) :
    Action (Except StoreError Report) := do
  match ← Action.store (.acquireMarker markerName owner (Marker.minAge settings.interval) now) with
  | .error e => return .error e
  | .ok false => return .ok .skipped
  | .ok true => sweep settings now

/-- A cycle at the time the clock shows. -/
def cycle (settings : LivenessSettings) (owner : String) :
    Action (Except StoreError Report) := do
  cycleAt settings owner (← Action.now)

end GridQueue.Liveness
