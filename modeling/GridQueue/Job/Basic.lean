/-
# `GridQueue.Job.Basic` — jobs

One unit of work in the queue.  Its identifier never changes and its
resubmission counter counts how often it was handed out.  What was
submitted stays as it was: the owner, what to run, the priority and the
price.  Where it runs, in which status, and when it was last heard from is
written by the broker, by its agent and by operators.
-/
import GridQueue.Job.Status
import GridQueue.Time.Instant

namespace GridQueue

/-- Who submitted a job, and from where. -/
structure Owner where
  /-- The account the job runs as. -/
  user : String
  submitHost : String
  deriving DecidableEq

/-- A job in the queue. -/
structure Job where
  id : Int
  status : Status
  owner : Owner
  /-- Where the job was claimed for, once it was. -/
  site : Option String
  ce : Option String
  /-- The worker node that claimed the job. -/
  execHost : Option String
  /-- What to run; the broker does not look inside. -/
  jdl : String
  priority : Int
  price : Float
  /-- How often the job was handed out; an agent repeats it in its
  reports. -/
  resubmission : Int
  /-- The aggregate of waiting work the job belongs to. -/
  aggregateId : Option Int
  /-- The master job of a subjob. -/
  split : Option Int
  masterJob : Bool
  submittedAt : Instant
  lastHeartbeat : Option Instant

namespace Job

def isTerminal (j : Job) : Bool := j.status.isTerminal

/-- The job can still change without an operator. -/
def isActive (j : Job) : Bool := j.status.isActive

/-- The job has subjobs instead of being run itself. -/
def isMaster (j : Job) : Bool := j.masterJob || j.status.isMaster

/-- Nanoseconds since the job was last heard from, if it ever was. -/
def heartbeatAge (j : Job) (now : Instant) : Option Int :=
  j.lastHeartbeat.map now.since

/-- The last sign of life: a heartbeat, or else the submission. -/
def lastSeen (j : Job) : Instant := j.lastHeartbeat.getD j.submittedAt

end Job

end GridQueue
