/-
# `GridQueue.Store.Memory` — the job store in memory

The tables of a store and what each call does to them.  `perform` answers
any call at the time the clock shows.  A row stands at the key it names,
so no operation can leave a row where its name does not find it.

| call              | writes                                       |
| :---------------- | :------------------------------------------- |
| claim             | the job: where it runs, its number, the time |
| report            | the job: its status, the time                |
| heartbeat         | the job: the time; a zombie runs again       |
| force             | the job: its status                          |
| move if stale     | the job: its status                          |
| decrement         | the aggregate                                |
| marker            | the marker, if it is old enough              |
| weight            | the record, which has to be there            |
| queue             | the queue, which is made if it is not there  |
| trace             | the end of the traces                        |

Counters are integers of 32 or 64 bits.  At its greatest value a counter
goes on at its least one here; where overflow is checked, the call does not
return instead.
-/
import GridQueue.Error
import GridQueue.Marker
import GridQueue.Matching.Rank
import GridQueue.Store.Call
import GridQueue.Width

namespace GridQueue

/-- The tables of a job store. -/
structure Store where
  /-- By identifier. -/
  jobs : Table Int Job := .empty
  /-- By identifier. -/
  aggregates : Table Int Aggregate := .empty
  /-- By user. -/
  records : Table String FairShare.Record := .empty
  /-- By computing element. -/
  queues : Table String SiteQueue := .empty
  /-- In the order they were recorded. -/
  traces : List TraceEntry := []
  /-- By name. -/
  markers : Table String Marker := .empty
  jobsKeyed : jobs.KeyedBy (·.id) := by exact Table.keyedBy_empty
  aggregatesKeyed : aggregates.KeyedBy (·.id) := by exact Table.keyedBy_empty
  recordsKeyed : records.KeyedBy (·.user) := by exact Table.keyedBy_empty
  queuesKeyed : queues.KeyedBy (·.ce) := by exact Table.keyedBy_empty

namespace Store

/-! ## Rows from outside -/

def insertJob (s : Store) (j : Job) : Store :=
  { s with jobs := s.jobs.insert j.id j, jobsKeyed := s.jobsKeyed.insert j }

def insertAggregate (s : Store) (a : Aggregate) : Store :=
  { s with
    aggregates := s.aggregates.insert a.id a
    aggregatesKeyed := s.aggregatesKeyed.insert a }

/-- Inserts or replaces the record of a user. -/
def insertRecord (s : Store) (r : FairShare.Record) : Store :=
  { s with records := s.records.insert r.user r, recordsKeyed := s.recordsKeyed.insert r }

/-- Overwrites when a job was last heard from. -/
def setHeartbeat (s : Store) (jobId : Int) (at_ : Instant) : Except StoreError Store :=
  match s.jobs.get? jobId with
  | some j => .ok (s.insertJob { j with lastHeartbeat := some at_ })
  | none => .error (.notFound ("Job " ++ toString jobId))

/-! ## Jobs -/

/-- The jobs with these identifiers, each once, in ascending order: those
that are found one by one, sorted, so that repetitions are neighbours. -/
def getJobs (s : Store) (ids : List Int) : List Job :=
  ((ids.filterMap s.jobs.get?).mergeSort fun j k => compare j.id k.id != .gt).eraseRepsBy
    fun j k => j.id == k.id

/-- The waiting job of an aggregate that has the least identifier. -/
def firstWaiting? (s : Store) (aggregateId : Int) : Option Job :=
  s.jobs.values.find? fun j => j.status = .waiting && j.aggregateId == some aggregateId

def claimed (j : Job) (target : ClaimTarget) (now : Instant) : Job :=
  { j with
    status := .assigned
    site := some target.site
    ce := some target.ce
    execHost := some target.host
    resubmission := wrapInt32 (j.resubmission + 1)
    lastHeartbeat := some now }

/-- Claims a waiting job of an aggregate. -/
def claimWaiting (s : Store) (aggregateId : Int) (target : ClaimTarget) (now : Instant) :
    Option ClaimedJob × Store :=
  match s.firstWaiting? aggregateId with
  | none => (none, s)
  | some j =>
      let j := claimed j target now
      (some
        { jobId := j.id
          resubmission := j.resubmission
          owner := j.owner
          jdl := j.jdl
          aggregateId },
       s.insertJob j)

/-- Writes a status if it follows the present one for the same hand-out. -/
def updateStatus (s : Store) (c : StatusChange) (now : Instant) : StatusUpdate × Store :=
  match s.jobs.get? c.jobId with
  | none => (.notFound, s)
  | some j =>
      if j.resubmission ≠ c.resubmission then (.stale j.resubmission, s)
      else if c.allowedFrom.contains j.status then
        (.applied j.status, s.insertJob { j with status := c.status, lastHeartbeat := some now })
      else (.rejected j.status, s)

/-- A sign of life for a hand-out; it brings a zombie back. -/
def touchHeartbeat (s : Store) (jobId resubmission : Int) (now : Instant) : Bool × Store :=
  match s.jobs.get? jobId with
  | none => (false, s)
  | some j =>
      if j.resubmission ≠ resubmission then (false, s)
      else if j.status.isInFlight then
        (true, s.insertJob { j with lastHeartbeat := some now })
      else if j.status = .zombie then
        (true, s.insertJob { j with status := .running, lastHeartbeat := some now })
      else (false, s)

def forceStatus (s : Store) (jobId : Int) (status : Status) : StatusUpdate × Store :=
  match s.jobs.get? jobId with
  | none => (.notFound, s)
  | some j =>
      if j.status.canForce status then
        (.applied j.status, s.insertJob { j with status })
      else (.rejected j.status, s)

/-- The job is in one of the statuses and was last heard from before an
instant. -/
def isStale (sources : List Status) (olderThan : Instant) (j : Job) : Bool :=
  sources.contains j.status && decide (j.lastSeen.before olderThan)

def staleJobs (s : Store) (statuses : List Status) (olderThan : Instant) : List StaleJob :=
  (s.jobs.values.filter (isStale statuses olderThan)).map fun j =>
    ⟨j.id, j.status, j.lastHeartbeat⟩

/-- Moves a job if it is stale. -/
def transitionIfStale (s : Store) (jobId : Int) (sources : List Status) (target : Status)
    (olderThan : Instant) : Bool × Store :=
  match s.jobs.get? jobId with
  | none => (false, s)
  | some j =>
      if isStale sources olderThan j then (true, s.insertJob { j with status := target })
      else (false, s)

/-! ## Aggregates and weights -/

/-- An aggregate as a candidate, if the filter accepts it and its owner is
not excluded. -/
def candidate? (s : Store) (filter : Matching.Filter) (a : Aggregate) :
    Option Matching.Candidate :=
  if filter.accepts a then
    (Matching.effectiveWeight a (s.records.get? a.user)).map fun weight => ⟨weight, a⟩
  else none

/-- The aggregates a filter finds, in ascending order. -/
def candidates (s : Store) (filter : Matching.Filter) : List Matching.Candidate :=
  s.aggregates.values.filterMap (s.candidate? filter)

/-- The aggregate that ranks first; of equals the one with the least
identifier. -/
def findWaiting (s : Store) (filter : Matching.Filter) : Option Aggregate :=
  (Matching.Candidate.best? (s.candidates filter)).map (·.aggregate)

/-- Counts a hand-out.  An aggregate is found while its counter is positive,
and the counter never falls below zero, so its width is no matter. -/
def decrement (s : Store) (aggregateId : Int) (isLocal : Bool) (now : Instant) : Store :=
  match s.aggregates.get? aggregateId with
  | none => s
  | some a =>
      s.insertAggregate
        { a with
          counter := max (a.counter - 1) 0
          idleSince := if isLocal then now else a.idleSince }

/-- The records of the users in a scope. -/
def priorityRecords (s : Store) : Scope → List FairShare.Record
  | .all => s.records.values
  | .activeOnly => s.records.values.filter (·.hasRecentUsage)

/-- Writes the computed part of a user's record. -/
def updatePriority (s : Store) (user : String) (userload weight : Float) :
    Except StoreError Store :=
  match s.records.get? user with
  | some r => .ok (s.insertRecord { r with userload, weight })
  | none => .error (.notFound ("Priority record " ++ user))

/-! ## Markers -/

/-- Whether a marker may be taken: nobody did before, or long enough ago.
An age that cannot be counted back from now is refused. -/
def isDue (s : Store) (name : String) (minAge : Span) (now : Instant) :
    Except StoreError Bool :=
  match now.back? minAge with
  | none => .error (.corrupt ("marker interval: " ++ Span.uncountableText))
  | some oldest =>
      match s.markers.get? name with
      | none => .ok true
      | some m => .ok (decide (m.takenAt.nanos ≤ oldest.nanos))

/-- Takes a marker if it is due. -/
def acquireMarker (s : Store) (name owner : String) (minAge : Span) (now : Instant) :
    Except StoreError Bool × Store :=
  match s.isDue name minAge now with
  | .error e => (.error e, s)
  | .ok false => (.ok false, s)
  | .ok true => (.ok true, { s with markers := s.markers.insert name ⟨now, owner⟩ })

/-! ## Queues of computing elements -/

def newQueue (ce site : String) (now : Instant) : SiteQueue :=
  { ce, site, status := "open", blocked := false, assigned := 0, waiting := 0
    statusChangedAt := now }

/-- The queue of a computing element, a new one if there is none. -/
def queueOr (s : Store) (ce site : String) (now : Instant) : SiteQueue :=
  (s.queues.get? ce).getD (newQueue ce site now)

def putQueue (s : Store) (q : SiteQueue) : Store :=
  { s with queues := s.queues.insert q.ce q, queuesKeyed := s.queuesKeyed.insert q }

/-- Changes the counters of a queue, which stay at zero or above, as long as
they do not leave their width. -/
def adjustCounters (s : Store) (ce site : String) (assigned waiting : Int) (now : Instant) :
    Store :=
  let q := s.queueOr ce site now
  s.putQueue
    { q with
      ce, site
      assigned := max (wrapInt64 (q.assigned + assigned)) 0
      waiting := max (wrapInt64 (q.waiting + waiting)) 0 }

def setQueueStatus (s : Store) (ce site status : String) (now : Instant) : Store :=
  let q := s.queueOr ce site now
  s.putQueue
    (if q.status = status then { q with ce }
     else { q with ce, status, statusChangedAt := now })

def setQueueBlocked (s : Store) (ce : String) (blocked : Bool) (now : Instant) : Store :=
  s.putQueue
    { s.queueOr ce "" now with
      ce, blocked
      status := if blocked then "blocked" else "open"
      statusChangedAt := now }

/-! ## Traces -/

/-- Adds a line to a job's trace. -/
def appendTrace (s : Store) (jobId : Int) (tag message : String) (now : Instant) : Store :=
  { s with traces := s.traces ++ [⟨jobId, now, tag, message⟩] }

def jobTrace (s : Store) (jobId : Int) : List TraceEntry :=
  s.traces.filter fun t => t.jobId = jobId

/-! ## Calls -/

def perform (now : Instant) : (c : StoreCall) → Store → Except StoreError c.Value × Store
  | .getJobs ids, s => (.ok (s.getJobs ids), s)
  | .findWaiting filter, s => (.ok (s.findWaiting filter), s)
  | .claimWaiting aggregateId target, s =>
      ((s.claimWaiting aggregateId target now).map .ok id)
  | .decrement aggregateId isLocal, s => (.ok (), s.decrement aggregateId isLocal now)
  | .updateStatus change, s => (s.updateStatus change now).map .ok id
  | .touchHeartbeat jobId resubmission, s =>
      (s.touchHeartbeat jobId resubmission now).map .ok id
  | .forceStatus jobId status, s => (s.forceStatus jobId status).map .ok id
  | .staleJobs statuses olderThan, s => (.ok (s.staleJobs statuses olderThan), s)
  | .transitionIfStale jobId sources target olderThan, s =>
      (s.transitionIfStale jobId sources target olderThan).map .ok id
  | .acquireMarker name owner minAge at_, s => s.acquireMarker name owner minAge at_
  | .priorityRecords scope, s => (.ok (s.priorityRecords scope), s)
  | .updatePriority user userload weight, s =>
      match s.updatePriority user userload weight with
      | .ok s' => (.ok (), s')
      | .error e => (.error e, s)
  | .siteQueue ce, s => (.ok (s.queues.get? ce), s)
  | .adjustCounters ce site assigned waiting, s =>
      (.ok (), s.adjustCounters ce site assigned waiting now)
  | .setQueueStatus ce site status, s => (.ok (), s.setQueueStatus ce site status now)
  | .setQueueBlocked ce blocked, s => (.ok (), s.setQueueBlocked ce blocked now)
  | .appendTrace jobId tag message, s => (.ok (), s.appendTrace jobId tag message now)
  | .jobTrace jobId, s => (.ok (s.jobTrace jobId), s)

end Store

end GridQueue
