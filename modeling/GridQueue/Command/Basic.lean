/-
# `GridQueue.Command.Basic` — what agents and operators may ask

The commands of the front door and the answers to them.  Agents ask for
work, report on it and show that they are alive; operators look at jobs,
add to their traces and force them to fail.

| command          | who       | what is answered                           |
| :--------------- | :-------- | :----------------------------------------- |
| `getJobs`        | operators | the jobs that there are                    |
| `setJobStatus`   | agents    | what became of the report                  |
| `heartbeat`      | agents    | whether the hand-out is the present one    |
| `appendTrace`    | operators | that the line was added                    |
| `matchJob`       | agents    | a job with its token, or why there is none |
| `forceJobStatus` | operators | what became of it                          |
-/
import GridQueue.Matching.Outcome
import GridQueue.Matching.Request
import GridQueue.Store.Basic

namespace GridQueue

/-- A command of the front door. -/
inductive Command
  | getJobs (ids : List Int)
  /-- an agent reports a status of its job -/
  | setJobStatus (jobId resubmission : Int) (status : Status)
  /-- an agent gives a sign of life -/
  | heartbeat (jobId resubmission : Int)
  | appendTrace (jobId : Int) (tag message : String)
  /-- an agent asks for work -/
  | matchJob (request : Matching.Request)
  /-- an operator forces a job into a failure status -/
  | forceJobStatus (jobId : Int) (status : Status)
  deriving DecidableEq

def Command.name : Command → String
  | getJobs _ => "get_jobs"
  | setJobStatus _ _ _ => "set_job_status"
  | heartbeat _ _ => "heartbeat"
  | appendTrace _ _ _ => "append_trace"
  | matchJob _ => "match_job"
  | forceJobStatus _ _ => "force_job_status"

/-- What became of a status change, as the caller is told. -/
inductive StatusResult
  | applied
  | stale
  | rejected
  | notFound
  deriving DecidableEq

namespace StatusResult

def all : List StatusResult := [applied, stale, rejected, notFound]

def name : StatusResult → String
  | applied => "applied"
  | stale => "stale"
  | rejected => "rejected"
  | notFound => "not_found"

def ofName? (name : String) : Option StatusResult := all.find? fun r => r.name == name

/-- What the caller is told of an update. -/
def ofUpdate : StatusUpdate → StatusResult
  | .applied _ => applied
  | .stale _ => stale
  | .rejected _ => rejected
  | .notFound => notFound

end StatusResult

/-- The answer to a command. -/
inductive Response
  | jobs (jobs : List Job)
  | status (jobId : Int) (result : StatusResult)
  | heartbeat (jobId : Int) (accepted : Bool)
  | traceAppended (jobId : Int)
  | matched (code : Int) (message : String) (outcome : Matching.Outcome)

end GridQueue
