/-
# `GridQueue.Wire.Command` — commands and their answers as JSON

A command, an answer and the outcome of a match say what they are by a tag
among their members:

| value    | tag        | further members           |
| :------- | :--------- | :------------------------ |
| command  | `command`  | the arguments             |
| answer   | `response` | what was found or done    |
| outcome  | `outcome`  | a job, packages, a reason |

The tag may stand anywhere among the members, or first in an array.  What
is left is read as a record of the kind that the tag names, which passes
over members that it does not have.
-/
import GridQueue.Command.Basic
import GridQueue.Wire.Credential
import GridQueue.Wire.Job
import GridQueue.Wire.Request

namespace GridQueue

open Json

/-! ## Tiers, reasons and results -/

def Matching.Tier.toJson (t : Matching.Tier) : Json := .str t.name

def Matching.Tier.ofJson? (withinTagged : Bool) : Json → Option Matching.Tier :=
  choice? withinTagged Matching.Tier.ofName?

def Matching.Reason.toJson (r : Matching.Reason) : Json := .str r.name

def Matching.Reason.ofJson? (withinTagged : Bool) : Json → Option Matching.Reason :=
  choice? withinTagged Matching.Reason.ofName?

def StatusResult.toJson (r : StatusResult) : Json := .str r.name

def StatusResult.ofJson? (withinTagged : Bool) : Json → Option StatusResult :=
  choice? withinTagged StatusResult.ofName?

/-! ## Outcomes -/

def Matching.AssignedJob.members (a : Matching.AssignedJob) : List (String × Json) :=
  [("queue_id", .int a.jobId),
   ("resubmission", .int a.resubmission),
   ("jdl", .str a.jdl),
   ("owner", a.owner.toJson),
   ("token", a.token.toJson),
   ("tier", a.tier.toJson)]

def Matching.AssignedJob.ofJson? (j : Json) : Option Matching.AssignedJob := do
  let r ← j.record? ["queue_id", "resubmission", "jdl", "owner", "token", "tier"]
  let jobId ← r.required "queue_id" int64?
  let resubmission ← r.required "resubmission" int32?
  let jdl ← r.required "jdl" str?
  let owner ← r.required "owner" Owner.ofJson?
  let token ← r.required "token" Token.ofJson?
  let tier ← r.required "tier" (Matching.Tier.ofJson? true)
  some { jobId, resubmission, jdl, owner, token, tier }

def Matching.Outcome.toJson (o : Matching.Outcome) : Json :=
  .obj (("outcome", .str o.label) ::
    match o with
    | .assigned job => job.members
    | .installPackages packages tier =>
        [("packages", strs packages), ("tier", tier.toJson)]
    | .nothingToRun reason => [("reason", reason.toJson)])

/-- Reads the members of an outcome that hands out a job. -/
def Matching.Outcome.readAssigned (j : Json) : Option Matching.Outcome :=
  (Matching.AssignedJob.ofJson? j).map .assigned

/-- Reads the members of an outcome that asks for packages. -/
def Matching.Outcome.readInstall (j : Json) : Option Matching.Outcome := do
  let r ← j.record? ["packages", "tier"]
  let packages ← r.required "packages" (list? str?)
  let tier ← r.required "tier" (Matching.Tier.ofJson? true)
  some (.installPackages packages tier)

/-- Reads the members of an outcome without work. -/
def Matching.Outcome.readNothing (j : Json) : Option Matching.Outcome := do
  let r ← j.record? ["reason"]
  let reason ← r.required "reason" (Matching.Reason.ofJson? true)
  some (.nothingToRun reason)

def Matching.Outcome.ofJson? (withinTagged : Bool) (j : Json) : Option Matching.Outcome := do
  let t ← j.tagged? "outcome"
  let read ← kind? withinTagged
    [("assigned", readAssigned), ("install_packages", readInstall),
     ("nothing_to_run", readNothing)] t.tag
  read t.rest

/-! ## Commands -/

def Command.members (c : Command) : List (String × Json) :=
  ("command", .str c.name) ::
    match c with
    | getJobs ids => [("queue_ids", .arr (ids.map .int))]
    | setJobStatus jobId resubmission status =>
        [("queue_id", .int jobId), ("resubmission", .int resubmission),
         ("status", status.toJson)]
    | heartbeat jobId resubmission =>
        [("queue_id", .int jobId), ("resubmission", .int resubmission)]
    | appendTrace jobId tag message =>
        [("queue_id", .int jobId), ("tag", .str tag), ("message", .str message)]
    | matchJob request =>
        match request.toJson with
        | .obj members => members
        | _ => []
    | forceJobStatus jobId status =>
        [("queue_id", .int jobId), ("status", status.toJson)]

def Command.toJson (c : Command) : Json := .obj c.members

def Command.readers : List (String × (Json → Option Command)) :=
  [("get_jobs", fun j => do
      let r ← j.record? ["queue_ids"]
      let ids ← r.required "queue_ids" (list? int64?)
      some (.getJobs ids)),
   ("set_job_status", fun j => do
      let r ← j.record? ["queue_id", "resubmission", "status"]
      let jobId ← r.required "queue_id" int64?
      let resubmission ← r.required "resubmission" int32?
      let status ← r.required "status" (Status.ofJson? true)
      some (.setJobStatus jobId resubmission status)),
   ("heartbeat", fun j => do
      let r ← j.record? ["queue_id", "resubmission"]
      let jobId ← r.required "queue_id" int64?
      let resubmission ← r.required "resubmission" int32?
      some (.heartbeat jobId resubmission)),
   ("append_trace", fun j => do
      let r ← j.record? ["queue_id", "tag", "message"]
      let jobId ← r.required "queue_id" int64?
      let tag ← r.required "tag" str?
      let message ← r.required "message" str?
      some (.appendTrace jobId tag message)),
   ("match_job", fun j => (Matching.Request.ofJson? j).map .matchJob),
   ("force_job_status", fun j => do
      let r ← j.record? ["queue_id", "status"]
      let jobId ← r.required "queue_id" int64?
      let status ← r.required "status" (Status.ofJson? true)
      some (.forceJobStatus jobId status))]

/-- Reads a command; `positions` allows the tag to be the position of the
kind of command. -/
def Command.ofJson? (positions : Bool) (j : Json) : Option Command := do
  let t ← j.tagged? "command"
  let read ← kind? positions Command.readers t.tag
  read t.rest

/-! ## Answers -/

def Response.toJson : Response → Json
  | jobs list => .obj [("response", .str "jobs"), ("jobs", .arr (list.map Job.toJson))]
  | status jobId result =>
      .obj [("response", .str "status"), ("queue_id", .int jobId), ("result", result.toJson)]
  | heartbeat jobId accepted =>
      .obj [("response", .str "heartbeat"), ("queue_id", .int jobId),
        ("accepted", .bool accepted)]
  | traceAppended jobId =>
      .obj [("response", .str "trace_appended"), ("queue_id", .int jobId)]
  | matched code message outcome =>
      .obj [("response", .str "match"), ("code", .int code), ("message", .str message),
        ("outcome", outcome.toJson)]

def Response.readers : List (String × (Json → Option Response)) :=
  [("jobs", fun j => do
      let r ← j.record? ["jobs"]
      let jobs ← r.required "jobs" (list? (Job.ofJson? true))
      some (.jobs jobs)),
   ("status", fun j => do
      let r ← j.record? ["queue_id", "result"]
      let jobId ← r.required "queue_id" int64?
      let result ← r.required "result" (StatusResult.ofJson? true)
      some (.status jobId result)),
   ("heartbeat", fun j => do
      let r ← j.record? ["queue_id", "accepted"]
      let jobId ← r.required "queue_id" int64?
      let accepted ← r.required "accepted" bool?
      some (.heartbeat jobId accepted)),
   ("trace_appended", fun j => do
      let r ← j.record? ["queue_id"]
      let jobId ← r.required "queue_id" int64?
      some (.traceAppended jobId)),
   ("match", fun j => do
      let r ← j.record? ["code", "message", "outcome"]
      let code ← r.required "code" int32?
      let message ← r.required "message" str?
      let outcome ← r.required "outcome" (Matching.Outcome.ofJson? true)
      some (.matched code message outcome))]

def Response.ofJson? (j : Json) : Option Response := do
  let t ← j.tagged? "response"
  let read ← kind? false Response.readers t.tag
  read t.rest

end GridQueue
