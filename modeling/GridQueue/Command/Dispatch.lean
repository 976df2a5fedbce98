/-
# `GridQueue.Command.Dispatch` — running commands

Each command is one program.  A command that is unacceptable in itself is
refused before anything is called:

    get_jobs            no identifiers, or more than `maxJobs` of them
    append_trace        a blank tag, or an empty message
    force_job_status    a status that is no failure

However a command ends, its end is counted once, by its name.
-/
import GridQueue.Command.Basic
import GridQueue.Matching.Broker

namespace GridQueue.Command

/-- The most jobs one command may ask for. -/
def maxJobs : Nat := 1000

/-- The tag of an operator's lines in traces. -/
def adminTag : String := "admin"

/-- Ends with what `f` makes of a store's answer. -/
def respond {α : Type} (result : Except StoreError α) (f : α → Response) :
    Except CommandError Response :=
  match result with
  | .ok v => .ok (f v)
  | .error e => .error (.store e)

def runGetJobs (ids : List Int) : Action (Except CommandError Response) := do
  if 1 ≤ ids.length ∧ ids.length ≤ maxJobs then
    return respond (← Action.store (.getJobs ids)) .jobs
  else
    return .error (.invalid ("get_jobs takes 1 to " ++ toString maxJobs
      ++ " identifiers, got " ++ toString ids.length))

/-- A line of a trace needs a tag and a message. -/
def runAppendTrace (jobId : Int) (tag message : String) :
    Action (Except CommandError Response) := do
  if Text.isBlankText tag || message.isEmpty then
    return .error (.invalid "trace tag and message must not be empty")
  else
    return respond (← Action.store (.appendTrace jobId tag message))
      fun _ => .traceAppended jobId

/-- Forces a status, and says so in the job's trace if it was written. -/
def runForce (jobId : Int) (status : Status) : Action (Except CommandError Response) := do
  if status.isFailure then
    match ← Action.store (.forceStatus jobId status) with
    | .error e => return .error (.store e)
    | .ok update =>
        if update.isApplied then
          Action.attempt (.appendTrace jobId adminTag ("status forced to " ++ status.name))
        return .ok (.status jobId (.ofUpdate update))
  else
    return .error (.invalid (status.name ++ " is not a failure status"))

def runMatch (settings : BrokerSettings) (request : Matching.Request) :
    Action (Except CommandError Response) := do
  match ← Matching.matchJob settings request with
  | .ok outcome => return .ok (.matched outcome.code outcome.message outcome)
  | .error e => return .error (.broker e)

def execute (settings : BrokerSettings) : Command → Action (Except CommandError Response)
  | getJobs ids => runGetJobs ids
  | setJobStatus jobId resubmission status => do
      return respond (← Action.store (.updateStatus ⟨jobId, resubmission, status, .agent⟩))
        fun update => .status jobId (.ofUpdate update)
  | heartbeat jobId resubmission => do
      return respond (← Action.store (.touchHeartbeat jobId resubmission))
        fun accepted => .heartbeat jobId accepted
  | appendTrace jobId tag message => runAppendTrace jobId tag message
  | matchJob request => runMatch settings request
  | forceJobStatus jobId status => runForce jobId status

def succeeded : Except CommandError Response → Bool
  | .ok _ => true
  | .error _ => false

def dispatch (settings : BrokerSettings) (c : Command) :
    Action (Except CommandError Response) := do
  let result ← c.execute settings
  Action.note (.commandEnded c.name (succeeded result))
  return result

end GridQueue.Command
