/-
# `GridQueue.Store.Call` — the operations of a job store

Every operation is one call with its arguments, and every call says what
kind of value it returns.  A store executes each call as a whole, so the
calls are the steps at which users of one store take turns.

    jobs           getJobs  claimWaiting  updateStatus  touchHeartbeat
                   forceStatus  staleJobs  transitionIfStale
    aggregates     findWaiting  decrement
    fair shares    priorityRecords  updatePriority
    queues         siteQueue  adjustCounters  setQueueStatus
                   setQueueBlocked
    the rest       acquireMarker  appendTrace  jobTrace

A store may be one in memory (`GridQueue.Store.Memory`) or a database
(`GridQueue.Store.Database`).  Of the two only a database can fail.
-/
import GridQueue.FairShare.Record
import GridQueue.Matching.Filter
import GridQueue.Store.Basic

namespace GridQueue

/-- A call of a job store. -/
inductive StoreCall
  /-- the jobs with these identifiers -/
  | getJobs (ids : List Int)
  /-- the aggregate that ranks first among those a filter accepts -/
  | findWaiting (filter : Matching.Filter)
  /-- takes the waiting job of an aggregate that has the least identifier -/
  | claimWaiting (aggregateId : Int) (target : ClaimTarget)
  /-- counts a claim; a local one restarts the aggregate's idle time -/
  | decrement (aggregateId : Int) (isLocal : Bool)
  | updateStatus (change : StatusChange)
  /-- a sign of life, which also brings a job back from the zombies -/
  | touchHeartbeat (jobId resubmission : Int)
  | forceStatus (jobId : Int) (status : Status)
  /-- the jobs in these statuses that were last heard from before an instant -/
  | staleJobs (statuses : List Status) (olderThan : Instant)
  /-- moves a job, unless it was heard from or left the statuses since -/
  | transitionIfStale (jobId : Int) (sources : List Status) (target : Status)
      (olderThan : Instant)
  /-- takes a shared marker if its last holder took it long enough ago -/
  | acquireMarker (name owner : String) (minAge : Span) (now : Instant)
  | priorityRecords (scope : Scope)
  | updatePriority (user : String) (userload weight : Float)
  | siteQueue (ce : String)
  | adjustCounters (ce site : String) (assigned waiting : Int)
  | setQueueStatus (ce site status : String)
  | setQueueBlocked (ce : String) (blocked : Bool)
  | appendTrace (jobId : Int) (tag message : String)
  | jobTrace (jobId : Int)

namespace StoreCall

/-- What a call returns when it succeeds. -/
def Value : StoreCall → Type
  | getJobs _ => List Job
  | findWaiting _ => Option Aggregate
  | claimWaiting _ _ => Option ClaimedJob
  | updateStatus _ | forceStatus _ _ => StatusUpdate
  | touchHeartbeat _ _ | transitionIfStale _ _ _ _ | acquireMarker _ _ _ _ => Bool
  | staleJobs _ _ => List StaleJob
  | priorityRecords _ => List FairShare.Record
  | siteQueue _ => Option SiteQueue
  | jobTrace _ => List TraceEntry
  | decrement _ _ | updatePriority _ _ _ | adjustCounters _ _ _ _ | setQueueStatus _ _ _
  | setQueueBlocked _ _ | appendTrace _ _ _ => Unit

end StoreCall

end GridQueue
