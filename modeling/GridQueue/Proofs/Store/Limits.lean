/-
# `GridQueue.Proofs.Store.Limits` — calls that the tables have room for

The store in memory takes texts of any length and instants to the
nanosecond.  The tables do not, and a call that is to end alike in both may
only write what its columns store as it is, and only compare with instants
that a database has:

| call                | has to fit                                           |
| :------------------ | :--------------------------------------------------- |
| `claimWaiting`      | the three names; the number of the next hand-out     |
| `updateStatus`      | the job                                              |
| `touchHeartbeat`    | the job                                              |
| `staleJobs`         | the instant                                          |
| `transitionIfStale` | the instant                                          |
| `decrement`         | the counter after, and when it was last served       |
| `acquireMarker`     | both names, the instant, and the one it is held to   |
| `adjustCounters`    | both names, the changes, and the counters after      |
| `setQueueStatus`    | the three texts, and when the status changed before  |
| `setQueueBlocked`   | the name                                             |
| `updatePriority`    | the name, which has to be one that can be sent       |
| `siteQueue`         | the name, which has to be one that can be sent       |

The time of the statement has to be one that a database has, too.
-/
import GridQueue.Proofs.Sql.Limits
import GridQueue.Store.Call
import GridQueue.Store.Memory

namespace GridQueue

open Sql

def StoreCall.FitsTables (s : Store) : StoreCall → Prop
  | claimWaiting aggregateId target =>
      (∀ name ∈ [target.site, target.ce, target.host], (Kind.varchar 255).Fits (.text name)) ∧
        ∀ j, s.firstWaiting? aggregateId = some j →
          FitsInt64 j.id ∧ FitsInt32 (j.resubmission + 1)
  | updateStatus change => FitsInt64 change.jobId
  | touchHeartbeat jobId _ => FitsInt64 jobId
  | staleJobs _ olderThan | transitionIfStale _ _ _ olderThan => olderThan.IsTimestamp
  | decrement aggregateId _ =>
      ∀ a, s.aggregates.get? aggregateId = some a →
        FitsInt64 (a.counter - 1) ∧ a.idleSince.IsTimestamp
  | acquireMarker name owner minAge at_ =>
      (Kind.varchar 128).Fits (.text name) ∧ (Kind.varchar 255).Fits (.text owner) ∧
        at_.IsTimestamp ∧ (at_.back minAge).IsTimestamp
  | adjustCounters ce site assigned waiting =>
      (∀ name ∈ [ce, site], (Kind.varchar 255).Fits (.text name)) ∧
        (∀ n ∈ [assigned, waiting], FitsInt64 n) ∧
        ∀ q, s.queues.get? ce = some q →
          FitsInt64 (q.assigned + assigned) ∧ FitsInt64 (q.waiting + waiting)
  | setQueueStatus ce site status =>
      (∀ name ∈ [ce, site], (Kind.varchar 255).Fits (.text name)) ∧
        (Kind.varchar 64).Fits (.text status) ∧
        ∀ q, s.queues.get? ce = some q → q.statusChangedAt.IsTimestamp
  | setQueueBlocked ce _ => (Kind.varchar 255).Fits (.text ce)
  | updatePriority name _ _ | siteQueue name => Kind.text.Fits (.text name)
  | _ => True

/-- The tables have room for calls that are made one after another. -/
def StoreCall.AllFitTables : List (Instant × StoreCall) → Store → Prop
  | [], _ => True
  | (now, c) :: rest, s =>
      now.IsTimestamp ∧ c.FitsTables s ∧ AllFitTables rest (s.perform now c).2

end GridQueue
