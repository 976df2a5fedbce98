/-
# `GridQueue.Simulation.Fault` — failures on demand

A fault says that a call of some name is to fail: some of these calls are
let through, and the next few take the effect.  Several faults may wait
for one name; the oldest that is not letting calls through takes effect,
and every one that is lets this call count.
-/
import GridQueue.Service.Call

namespace GridQueue.Simulation

/-- What happens to a call instead of its work. -/
inductive Effect
  | store (e : StoreError)
  | directory (e : DirectoryError)
  | credential (e : CredentialError)
  /-- nothing is done and nothing is found -/
  | empty
  /-- the call never returns -/
  | hang

/-- A failure that waits for its calls. -/
structure Fault where
  /-- The name of the calls. -/
  call : String
  effect : Effect
  /-- How many calls take the effect. -/
  times : Nat := 1
  /-- How many calls are let through before. -/
  skip : Nat := 0

/-- The effect that waits for a call of this name, and the faults that
are left. -/
def trigger (name : String) : List Fault → Option Effect × List Fault
  | [] => (none, [])
  | f :: rest =>
      if f.call = name ∧ 0 < f.skip then
        let (effect, rest) := trigger name rest
        (effect, { f with skip := f.skip - 1 } :: rest)
      else if f.call = name ∧ 0 < f.times then
        (some f.effect, { f with times := f.times - 1 } :: rest)
      else
        let (effect, rest) := trigger name rest
        (effect, f :: rest)

end GridQueue.Simulation

namespace GridQueue

def StoreCall.name : StoreCall → String
  | getJobs _ => "get_jobs"
  | findWaiting _ => "find_waiting_aggregate"
  | claimWaiting _ _ => "claim_waiting_job"
  | decrement _ _ => "decrement_aggregate"
  | updateStatus _ => "update_job_status"
  | touchHeartbeat _ _ => "touch_heartbeat"
  | forceStatus _ _ => "force_job_status"
  | staleJobs _ _ => "stale_jobs"
  | transitionIfStale _ _ _ _ => "transition_if_stale"
  | acquireMarker _ _ _ _ => "try_acquire_marker"
  | priorityRecords _ => "priority_records"
  | updatePriority _ _ _ => "update_computed_priority"
  | siteQueue _ => "site_queue"
  | adjustCounters _ _ _ _ => "adjust_site_counters"
  | setQueueStatus _ _ _ => "set_site_queue_status"
  | setQueueBlocked _ _ => "set_site_queue_blocked"
  | appendTrace _ _ _ => "append_trace"
  | jobTrace _ => "job_trace"

/-- What a call returns that finds nothing. -/
def StoreCall.nothing : (c : StoreCall) → c.Value
  | getJobs _ => []
  | findWaiting _ => none
  | claimWaiting _ _ => none
  | updateStatus _ | forceStatus _ _ => .notFound
  | touchHeartbeat _ _ | transitionIfStale _ _ _ _ | acquireMarker _ _ _ _ => false
  | staleJobs _ _ => []
  | priorityRecords _ => []
  | siteQueue _ => none
  | jobTrace _ => []
  | decrement _ _ | updatePriority _ _ _ | adjustCounters _ _ _ _ | setQueueStatus _ _ _
  | setQueueBlocked _ _ | appendTrace _ _ _ => ()

end GridQueue
