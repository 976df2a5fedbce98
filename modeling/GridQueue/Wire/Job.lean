/-
# `GridQueue.Wire.Job` — jobs as JSON

How jobs and what the store says of them are written and read.  A status is
its name, an instant its text in UTC, and what a job does not have is null.
When a job is read such members may be absent as well.

A name out of a choice may also be given as an object that has the name and
null inside.  `withinTagged` says that the value stands in one with a tag,
where the object may as well be empty inside.
-/
import GridQueue.Json.Record
import GridQueue.Store.Basic
import GridQueue.Time.Text

namespace GridQueue

open Json

/-! ## Statuses and times -/

def Status.toJson (s : Status) : Json := .str s.name

def Status.ofJson? (withinTagged : Bool) : Json → Option Status :=
  choice? withinTagged Status.ofName?

def Status.Category.toJson (c : Status.Category) : Json := .str c.name

def Status.Category.ofJson? : Json → Option Status.Category :=
  choice? false Status.Category.ofName?

def Instant.toJson (t : Instant) : Json := .str t.text

def Instant.ofJson? (j : Json) : Option Instant := j.str?.bind Instant.read?

/-! ## Owners and jobs -/

def Owner.toJson (o : Owner) : Json :=
  .obj [("user", .str o.user), ("submit_host", .str o.submitHost)]

def Owner.ofJson? (j : Json) : Option Owner := do
  let r ← j.record? ["user", "submit_host"]
  let user ← r.required "user" str?
  let submitHost ← r.required "submit_host" str?
  some ⟨user, submitHost⟩

def Job.toJson (j : Job) : Json :=
  .obj
    [("queue_id", .int j.id),
     ("status", j.status.toJson),
     ("owner", j.owner.toJson),
     ("site", opt .str j.site),
     ("ce", opt .str j.ce),
     ("exec_host", opt .str j.execHost),
     ("jdl", .str j.jdl),
     ("priority", .int j.priority),
     ("price", .float j.price),
     ("resubmission", .int j.resubmission),
     ("aggregate_id", opt .int j.aggregateId),
     ("split", opt .int j.split),
     ("master_job", .bool j.masterJob),
     ("submitted_at", j.submittedAt.toJson),
     ("last_heartbeat", opt Instant.toJson j.lastHeartbeat)]

def Job.ofJson? (withinTagged : Bool) (j : Json) : Option Job := do
  let r ← j.record?
    ["queue_id", "status", "owner", "site", "ce", "exec_host", "jdl", "priority",
     "price", "resubmission", "aggregate_id", "split", "master_job", "submitted_at",
     "last_heartbeat"]
  let id ← r.required "queue_id" int64?
  let status ← r.required "status" (Status.ofJson? withinTagged)
  let owner ← r.required "owner" Owner.ofJson?
  let site ← r.optional "site" str?
  let ce ← r.optional "ce" str?
  let execHost ← r.optional "exec_host" str?
  let jdl ← r.required "jdl" str?
  let priority ← r.required "priority" int32?
  let price ← r.required "price" float?
  let resubmission ← r.required "resubmission" int32?
  let aggregateId ← r.optional "aggregate_id" int64?
  let split ← r.optional "split" int64?
  let masterJob ← r.required "master_job" bool?
  let submittedAt ← r.required "submitted_at" Instant.ofJson?
  let lastHeartbeat ← r.optional "last_heartbeat" Instant.ofJson?
  some { id, status, owner, site, ce, execHost, jdl, priority, price, resubmission,
         aggregateId, split, masterJob, submittedAt, lastHeartbeat }

/-! ## What the store says of jobs and queues -/

def ClaimedJob.toJson (c : ClaimedJob) : Json :=
  .obj
    [("queue_id", .int c.jobId),
     ("resubmission", .int c.resubmission),
     ("owner", c.owner.toJson),
     ("jdl", .str c.jdl),
     ("aggregate_id", .int c.aggregateId)]

def ClaimedJob.ofJson? (j : Json) : Option ClaimedJob := do
  let r ← j.record? ["queue_id", "resubmission", "owner", "jdl", "aggregate_id"]
  let jobId ← r.required "queue_id" int64?
  let resubmission ← r.required "resubmission" int32?
  let owner ← r.required "owner" Owner.ofJson?
  let jdl ← r.required "jdl" str?
  let aggregateId ← r.required "aggregate_id" int64?
  some ⟨jobId, resubmission, owner, jdl, aggregateId⟩

def SiteQueue.toJson (q : SiteQueue) : Json :=
  .obj
    [("ce", .str q.ce),
     ("site", .str q.site),
     ("status", .str q.status),
     ("blocked", .bool q.blocked),
     ("assigned", .int q.assigned),
     ("waiting", .int q.waiting),
     ("status_changed_at", q.statusChangedAt.toJson)]

def SiteQueue.ofJson? (j : Json) : Option SiteQueue := do
  let r ← j.record?
    ["ce", "site", "status", "blocked", "assigned", "waiting", "status_changed_at"]
  let ce ← r.required "ce" str?
  let site ← r.required "site" str?
  let status ← r.required "status" str?
  let blocked ← r.required "blocked" bool?
  let assigned ← r.required "assigned" int64?
  let waiting ← r.required "waiting" int64?
  let statusChangedAt ← r.required "status_changed_at" Instant.ofJson?
  some { ce, site, status, blocked, assigned, waiting, statusChangedAt }

def TraceEntry.toJson (t : TraceEntry) : Json :=
  .obj
    [("queue_id", .int t.jobId),
     ("recorded_at", t.recordedAt.toJson),
     ("tag", .str t.tag),
     ("message", .str t.message)]

def TraceEntry.ofJson? (j : Json) : Option TraceEntry := do
  let r ← j.record? ["queue_id", "recorded_at", "tag", "message"]
  let jobId ← r.required "queue_id" int64?
  let recordedAt ← r.required "recorded_at" Instant.ofJson?
  let tag ← r.required "tag" str?
  let message ← r.required "message" str?
  some ⟨jobId, recordedAt, tag, message⟩

end GridQueue
