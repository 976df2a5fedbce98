/-
# `GridQueue.Job.Status` — the life cycle of a job

The statuses a job can be in, their grouping, and which component may
move a job from one to the next:

    from                                    to                     mover
    INSERTING                               WAITING, SPLITTING     submission
    SPLITTING                               SPLIT, ERROR_SPLT      submission
    WAITING                                 ASSIGNED               broker
    ASSIGNED                                ERROR_A                broker
    ASSIGNED → STARTED → RUNNING → SAVING   (one step each)        agent
    RUNNING, SAVING                         DONE, DONE_WARN        agent
    in flight                               ERROR_E … FAILED       agent
    ZOMBIE                                  RUNNING, SAVING        agent
    in flight                               ZOMBIE                 monitor
    ZOMBIE                                  EXPIRED                monitor

Nothing leaves a success or failure status, except that an operator may
force any job into a failure status (`Status.canForce`).
-/
import GridQueue.Text.Blank

namespace GridQueue

/-- The status of a job in the queue. -/
inductive Status
  | inserting
  | waiting
  | splitting
  | split
  | assigned
  | started
  | running
  | saving
  | zombie
  | done
  | doneWarn
  /-- the assignment failed after the claim -/
  | errorA
  /-- the execution failed -/
  | errorE
  /-- staging the input failed -/
  | errorI
  /-- downloading the input inside the sandbox failed -/
  | errorIb
  /-- saving the output failed -/
  | errorS
  /-- the validation failed -/
  | errorV
  /-- splitting a master job failed -/
  | errorSplt
  | failed
  | expired
  | killed
  deriving DecidableEq

/-- The component that moves a job. -/
inductive Actor
  /-- claims waiting jobs, and takes a claim back when it cannot be kept -/
  | broker
  /-- runs the job and reports on it -/
  | agent
  /-- looks for jobs that fell silent -/
  | monitor
  /-- brings jobs into the queue -/
  | submission
  deriving DecidableEq

namespace Status

/-- Coarse grouping of the statuses. -/
inductive Category
  /-- not yet, or not any longer than now, up for matching -/
  | pending
  /-- handed to an agent, from whom heartbeats are expected -/
  | inFlight
  /-- bookkeeping of a job that fans out -/
  | master
  /-- fallen silent, and not yet given up -/
  | failureDetected
  | success
  | failure
  deriving DecidableEq

namespace Category

def all : List Category :=
  [pending, inFlight, master, failureDetected, success, failure]

def name : Category → String
  | pending => "Pending"
  | inFlight => "InFlight"
  | master => "Master"
  | failureDetected => "FailureDetected"
  | success => "Success"
  | failure => "Failure"

def ofName? (name : String) : Option Category :=
  all.find? fun c => c.name == name

end Category

def all : List Status :=
  [inserting, waiting, splitting, split, assigned, started, running,
   saving, zombie, done, doneWarn, errorA, errorE, errorI, errorIb,
   errorS, errorV, errorSplt, failed, expired, killed]

theorem mem_all (s : Status) : s ∈ all := by
  cases s <;> decide

def name : Status → String
  | inserting => "INSERTING"
  | waiting => "WAITING"
  | splitting => "SPLITTING"
  | split => "SPLIT"
  | assigned => "ASSIGNED"
  | started => "STARTED"
  | running => "RUNNING"
  | saving => "SAVING"
  | zombie => "ZOMBIE"
  | done => "DONE"
  | doneWarn => "DONE_WARN"
  | errorA => "ERROR_A"
  | errorE => "ERROR_E"
  | errorI => "ERROR_I"
  | errorIb => "ERROR_IB"
  | errorS => "ERROR_S"
  | errorV => "ERROR_V"
  | errorSplt => "ERROR_SPLT"
  | failed => "FAILED"
  | expired => "EXPIRED"
  | killed => "KILLED"

def ofName? (name : String) : Option Status :=
  all.find? fun s => s.name == name

theorem ofName?_name (s : Status) : ofName? s.name = some s := by
  cases s <;> decide

/-- No status has this name. -/
structure UnknownName where
  text : String

/-- What is said about an unknown name. -/
def UnknownName.message (e : UnknownName) : String :=
  "Unknown job status '" ++ e.text ++ "'"

/-- Reads a status as people write it: white space around it and the
case of ASCII letters do not count. -/
def read (text : String) : Except UnknownName Status :=
  match ofName? (String.ofList ((Text.trim text).toList.map Char.toUpper)) with
  | some s => .ok s
  | none => .error ⟨text⟩

def category : Status → Category
  | inserting | waiting => .pending
  | splitting | split => .master
  | assigned | started | running | saving => .inFlight
  | zombie => .failureDetected
  | done | doneWarn => .success
  | errorA | errorE | errorI | errorIb | errorS | errorV | errorSplt
  | failed | expired | killed => .failure

/-- An agent works on the job and must be heard from. -/
def isInFlight (s : Status) : Bool := s.category == .inFlight

def isFailure (s : Status) : Bool := s.category == .failure

def isTerminal (s : Status) : Bool := s.category == .success || s.category == .failure

/-- The job can still change without an operator. -/
def isActive (s : Status) : Bool := !s.isTerminal

/-- Only a master job is ever in this status. -/
def isMaster (s : Status) : Bool := s.category == .master

def inFlight : List Status := [assigned, started, running, saving]

/-- Who moves a job from one status to the next, if anyone does. -/
def mover? : Status → Status → Option Actor
  | inserting, waiting | inserting, splitting
  | splitting, split | splitting, errorSplt => some .submission
  | waiting, assigned | assigned, errorA => some .broker
  | assigned, started | started, running | running, saving
  | running, done | running, doneWarn | saving, done | saving, doneWarn
  | zombie, running | zombie, saving => some .agent
  | zombie, expired => some .monitor
  | s, t =>
      if s.isInFlight then
        match t with
        | errorE | errorI | errorIb | errorS | errorV | failed => some .agent
        | zombie => some .monitor
        | _ => none
      else none

/-- Whether `actor` moves jobs from `s` to `t`. -/
def canMove (s t : Status) (actor : Actor) : Bool := s.mover? t == some actor

/-- The statuses from which `actor` moves jobs to `target`. -/
def predecessors (target : Status) (actor : Actor) : List Status :=
  all.filter fun s => s.canMove target actor

/-- An operator may force a job into any failure status but its own. -/
def canForce (s target : Status) : Bool := target.isFailure && s != target

end Status

end GridQueue
