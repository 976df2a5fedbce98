/-
# `GridQueue.Store.Basic` — what the job store is asked and answers

The values that go into and come out of the operations of a job store,
whichever store it is.  A report on a job names the hand-out it is about by
its number, so a store can tell an agent that was overtaken from the one
that has the job now; what became of a report is a `StatusUpdate`:

    applied     the status was written
    stale       the job has been handed out again
    rejected    the status does not follow on the one the job has
    notFound    there is no such job
-/
import GridQueue.Job.Basic

namespace GridQueue

/-- What is written to a job when it is claimed. -/
structure ClaimTarget where
  site : String
  ce : String
  host : String
  deriving DecidableEq

/-- A job that was just claimed. -/
structure ClaimedJob where
  jobId : Int
  /-- How often the job was handed out, this time included. -/
  resubmission : Int
  owner : Owner
  jdl : String
  aggregateId : Int
  deriving DecidableEq

/-- A status reported for one hand-out of a job. -/
structure StatusChange where
  jobId : Int
  /-- The hand-out the reporter speaks of. -/
  resubmission : Int
  status : Status
  actor : Actor
  deriving DecidableEq

/-- The statuses a job may be in for the change to apply.  An agent that
reports a status in flight once more gives a sign of life. -/
def StatusChange.allowedFrom (c : StatusChange) : List Status :=
  c.status.predecessors c.actor
    ++ (if c.actor = .agent ∧ c.status.isInFlight then [c.status] else [])

/-- What became of a status change. -/
inductive StatusUpdate
  | applied (previous : Status)
  /-- the job was handed out again since -/
  | stale (current : Int)
  | rejected (current : Status)
  | notFound
  deriving DecidableEq

def StatusUpdate.isApplied : StatusUpdate → Bool
  | applied _ => true
  | stale _ | rejected _ | notFound => false

/-- A job that was not heard from for long. -/
structure StaleJob where
  jobId : Int
  status : Status
  lastHeartbeat : Option Instant
  deriving DecidableEq

/-- Which users a fair-share batch visits. -/
inductive Scope
  | all
  /-- those with cores in use or running time within the last day -/
  | activeOnly
  deriving DecidableEq

/-- The state of the queue of a computing element. -/
structure SiteQueue where
  ce : String
  site : String
  status : String
  blocked : Bool
  assigned : Int
  waiting : Int
  statusChangedAt : Instant
  deriving DecidableEq

/-- A line of a job's trace. -/
structure TraceEntry where
  jobId : Int
  recordedAt : Instant
  tag : String
  message : String
  deriving DecidableEq

end GridQueue
