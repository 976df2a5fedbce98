/-
# `GridQueue.Store.Database` — the job store in a database

Each operation of the job store as a program that talks to a database.
Most are one statement.  Where a guarded change changes nothing, the job
is looked up once more to say why; so the reason is that of the moment
after, not of the change itself.

Statements run under the limits of the settings, a claim under its own.
Instants are sent as a database has them, in whole microseconds; that of a
look-up is taken to be one already.
-/
import GridQueue.Settings
import GridQueue.Sql.Session
import GridQueue.Store.Call
import GridQueue.Store.Lookup
import GridQueue.Store.Rows
import GridQueue.Store.Statement

namespace GridQueue

open Sql

def StoreError.ofConnecting (e : DatabaseError) : StoreError := .connection e.message

/-- A program that talks to the database of the job store. -/
abbrev Querying := Attempt StoreError

namespace Querying

def bounded (operation : String) (limit : Span) (s : Statement) (params : List Value) :
    Querying Reply := do
  match ← ExceptT.lift (Program.perform (A := Exchange.Answer) (.run (some limit) s params)) with
  | some (.ok reply) => return reply
  | some (.error e) => throw (.ofDatabase e)
  | none => throw (.timeout operation limit)

def statusNames (l : List Status) : Value := .texts (l.map Status.name)

/-- The first row of a reply, if there is one. -/
def firstRow {α : Type} (reply : Reply) (read : Row → Except StoreError α) :
    Querying (Option α) :=
  match reply.rows with
  | [] => pure none
  | r :: _ => some <$> ExceptT.mk (pure (read r))

def allRows {α : Type} (reply : Reply) (read : Row → Except StoreError α) :
    Querying (List α) :=
  ExceptT.mk (pure (reply.rows.mapM read))

/-- The status and the hand-out of a job. -/
def currentStatus (t : Timeouts) (jobId : Int) : Querying (Option (Status × Int)) := do
  let reply ← bounded "current_status" t.query StoreStatement.currentStatus [.int jobId]
  firstRow reply fun r => do
    return (← r.status "status", ← r.read "resubmission" Value.int?)

/-- Why a guarded change of a job changed nothing; the hand-out counts
only if the change named one. -/
def whyUnchanged (t : Timeouts) (jobId : Int) (resubmission : Option Int) :
    Querying StatusUpdate := do
  match ← currentStatus t jobId with
  | none => return .notFound
  | some (status, current) =>
      return if resubmission.any (· != current) then .stale current else .rejected status

/-- A change that reports the status before it. -/
def applied (t : Timeouts) (jobId : Int) (resubmission : Option Int) (reply : Reply) :
    Querying StatusUpdate := do
  match ← firstRow reply fun r => r.status "previous" with
  | some previous => return .applied previous
  | none => whyUnchanged t jobId resubmission

/-- Writes a status if it follows the present one for the same hand-out. -/
def updateStatus (t : Timeouts) (c : StatusChange) : Querying StatusUpdate := do
  if c.allowedFrom.isEmpty then whyUnchanged t c.jobId (some c.resubmission)
  else
    let reply ← bounded "update_job_status" t.query StoreStatement.updateStatus
      [.int c.jobId, .int c.resubmission, .text c.status.name, statusNames c.allowedFrom]
    applied t c.jobId (some c.resubmission) reply

def forceStatus (t : Timeouts) (jobId : Int) (status : Status) : Querying StatusUpdate := do
  if status.isFailure then
    let reply ← bounded "force_job_status" t.query StoreStatement.forceStatus
      [.int jobId, .text status.name]
    applied t jobId none reply
  else whyUnchanged t jobId none

/-- Takes a marker if it is due. -/
def acquireMarker (t : Timeouts) (name owner : String) (minAge : Span) (now : Instant) :
    Querying Bool := do
  match now.back? minAge with
  | none => throw (.corrupt ("marker interval: " ++ Span.uncountableText))
  | some oldest =>
      let reply ← bounded "try_acquire_marker" t.query StoreStatement.acquireMarker
        [.text name, .text owner, .time now.inMicros, .time oldest.inMicros]
      return reply.affected == 1

/-- A statement that is sent for its effect. -/
def command (t : Timeouts) (operation : String) (s : Statement) (params : List Value) :
    Querying Unit := do
  let _ ← bounded operation t.query s params

/-- Answers a call of the job store. -/
def perform (t : Timeouts) : (c : StoreCall) → Querying c.Value
  | .getJobs ids => do
      let reply ← bounded "get_jobs" t.query StoreStatement.getJobs [.ints ids]
      allRows reply Job.ofRow
  | .findWaiting filter => do
      let reply ← bounded "find_waiting_aggregate" t.query (.ofSelect (Lookup.select filter))
        (Lookup.params filter)
      firstRow reply Aggregate.ofRow
  | .claimWaiting aggregateId target => do
      let reply ← bounded "claim_waiting_job" t.claim StoreStatement.claim
        [.int aggregateId, .text target.site, .text target.ce, .text target.host]
      firstRow reply (ClaimedJob.ofRow aggregateId)
  | .decrement aggregateId isLocal =>
      command t "decrement_aggregate" StoreStatement.decrement [.int aggregateId, .bool isLocal]
  | .updateStatus change => updateStatus t change
  | .touchHeartbeat jobId resubmission => do
      let reply ← bounded "touch_heartbeat" t.query StoreStatement.touchHeartbeat
        [.int jobId, .int resubmission, statusNames (Status.inFlight ++ [.zombie]),
         .text Status.zombie.name, .text Status.running.name]
      return reply.affected == 1
  | .forceStatus jobId status => forceStatus t jobId status
  | .staleJobs statuses olderThan => do
      let reply ← bounded "stale_jobs" t.query StoreStatement.staleJobs
        [statusNames statuses, .time olderThan.inMicros]
      allRows reply StaleJob.ofRow
  | .transitionIfStale jobId sources target olderThan => do
      let reply ← bounded "transition_if_stale" t.query StoreStatement.transitionIfStale
        [.int jobId, statusNames sources, .text target.name, .time olderThan.inMicros]
      return reply.affected == 1
  | .acquireMarker name owner minAge now => acquireMarker t name owner minAge now
  | .priorityRecords scope => do
      let reply ← bounded "priority_records" t.query StoreStatement.priorityRecords
        [.bool (scope = .activeOnly)]
      allRows reply FairShare.Record.ofRow
  | .updatePriority user userload weight => do
      let reply ← bounded "update_computed_priority" t.query StoreStatement.updatePriority
        [.text user, .real userload, .real weight]
      if reply.affected = 0 then throw (.notFound ("Priority record " ++ user))
  | .siteQueue ce => do
      let reply ← bounded "site_queue" t.query StoreStatement.siteQueue [.text ce]
      firstRow reply SiteQueue.ofRow
  | .adjustCounters ce site assigned waiting =>
      command t "adjust_site_counters" StoreStatement.adjustCounters
        [.text ce, .text site, .int assigned, .int waiting]
  | .setQueueStatus ce site status =>
      command t "set_site_queue_status" StoreStatement.setQueueStatus
        [.text ce, .text site, .text status]
  | .setQueueBlocked ce blocked =>
      command t "set_site_queue_blocked" StoreStatement.setQueueBlocked
        [.text ce, .bool blocked]
  | .appendTrace jobId tag message =>
      command t "append_trace" StoreStatement.appendTrace
        [.int jobId, .text tag, .text message]
  | .jobTrace jobId => do
      let reply ← bounded "job_trace" t.query StoreStatement.jobTrace [.int jobId]
      allRows reply TraceEntry.ofRow

end Querying

end GridQueue
