/-
# `GridQueue.Store.Rows` — records as rows

How the records of a job store stand in the tables, and how they are read
back from the rows a statement returns.  A status that is stored under an
unknown name makes its row corrupt; a column that holds anything else than
what is expected makes the statement fail.  A job stands in two tables: its
last sign of life has a row of its own and is joined to it.
-/
import GridQueue.Aggregate
import GridQueue.Error
import GridQueue.FairShare.Record
import GridQueue.Sql.Value
import GridQueue.Store.Basic

namespace GridQueue

open Sql

/-! ## Reading -/

namespace Sql.Row

def read {α : Type} (r : Row) (column : String) (f : Value → Option α) :
    Except StoreError α :=
  match f (r.get column) with
  | some a => .ok a
  | none => .error (.ofDatabase (.columnDecode ("\"" ++ column ++ "\"") "unexpected type"))

def status (r : Row) (column : String) : Except StoreError Status := do
  match Status.read (← r.read column Value.text?) with
  | .ok s => .ok s
  | .error e => .error (.corrupt e.message)

end Sql.Row

open Value in
def Job.ofRow (r : Row) : Except StoreError Job := do
  return {
    id := ← r.read "queue_id" int?
    status := ← r.status "status"
    owner := ⟨← r.read "user_name" text?, ← r.read "submit_host" text?⟩
    site := ← r.read "site" (nullable text?)
    ce := ← r.read "ce" (nullable text?)
    execHost := ← r.read "exec_host" (nullable text?)
    jdl := ← r.read "jdl" text?
    priority := ← r.read "priority" int?
    price := ← r.read "price" real?
    resubmission := ← r.read "resubmission" int?
    aggregateId := ← r.read "aggregate_id" (nullable int?)
    split := ← r.read "split" (nullable int?)
    masterJob := ← r.read "master_job" bool?
    submittedAt := ← r.read "submitted_at" time?
    lastHeartbeat := ← r.read "last_update" (nullable time?) }

open Value in
def Aggregate.ofRow (r : Row) : Except StoreError Aggregate := do
  return {
    id := ← r.read "entry_id" int?
    counter := ← r.read "counter" int?
    user := ← r.read "user_name" text?
    sites := ← r.read "sites" texts?
    ces := ← r.read "ces" texts?
    excludedCes := ← r.read "excluded_ces" texts?
    packages := ← r.read "packages" texts?
    partitions := ← r.read "partitions" texts?
    excludedPartitions := ← r.read "excluded_partitions" texts?
    ttl := ← r.read "ttl" int?
    disk := ← r.read "disk" int?
    priority := ← r.read "priority" real?
    price := ← r.read "price" real?
    oldestJob := ← r.read "oldest_queue_id" int?
    remoteAllowed := ← r.read "remote_allowed" bool?
    remoteTimeout := ← r.read "remote_timeout_secs" (nullable int?)
    idleSince := ← r.read "idle_since" time? }

open Value in
def FairShare.Record.ofRow (r : Row) : Except StoreError FairShare.Record := do
  return {
    user := ← r.read "user_name" text?
    usage := {
      priority := ← r.read "priority" real?
      running := ← r.read "running" int?
      maxParallel := ← r.read "max_parallel_jobs" int?
      last24h := ← r.read "total_running_time_last24h" int?
      maxTotal := ← r.read "max_total_running_time" int? }
    userload := ← r.read "userload" real?
    weight := ← r.read "computed_priority" real? }

open Value in
def SiteQueue.ofRow (r : Row) : Except StoreError SiteQueue := do
  return {
    ce := ← r.read "ce" text?
    site := ← r.read "site" text?
    status := ← r.read "status" text?
    blocked := ← r.read "blocked" bool?
    assigned := ← r.read "assigned" int?
    waiting := ← r.read "waiting" int?
    statusChangedAt := ← r.read "status_changed_at" time? }

open Value in
def TraceEntry.ofRow (r : Row) : Except StoreError TraceEntry := do
  return {
    jobId := ← r.read "queue_id" int?
    recordedAt := ← r.read "recorded_at" time?
    tag := ← r.read "tag" text?
    message := ← r.read "message" text? }

open Value in
def StaleJob.ofRow (r : Row) : Except StoreError StaleJob := do
  return {
    jobId := ← r.read "queue_id" int?
    status := ← r.status "status"
    lastHeartbeat := ← r.read "last_update" (nullable time?) }

open Value in
/-- Reads a claimed job of an aggregate. -/
def ClaimedJob.ofRow (aggregateId : Int) (r : Row) : Except StoreError ClaimedJob := do
  return {
    jobId := ← r.read "queue_id" int?
    resubmission := ← r.read "resubmission" int?
    owner := ⟨← r.read "user_name" text?, ← r.read "submit_host" text?⟩
    jdl := ← r.read "jdl" text?
    aggregateId }

/-! ## Writing -/

def Sql.Value.ofText? (s : Option String) : Value := .ofOption .text s

/-- The row of a job; when it was assigned is known only to the database. -/
def Job.toRow (j : Job) (assignedAt : Option Instant) : Row :=
  [("queue_id", .int j.id), ("status", .text j.status.name), ("user_name", .text j.owner.user),
   ("submit_host", .text j.owner.submitHost), ("site", .ofText? j.site), ("ce", .ofText? j.ce),
   ("exec_host", .ofText? j.execHost), ("jdl", .text j.jdl), ("priority", .int j.priority),
   ("price", .real j.price), ("resubmission", .int j.resubmission),
   ("aggregate_id", .ofOption .int j.aggregateId), ("split", .ofOption .int j.split),
   ("master_job", .bool j.masterJob), ("submitted_at", .time j.submittedAt),
   ("assigned_at", .ofOption .time assignedAt)]

def heartbeatRow (jobId : Int) (at_ : Instant) : Row :=
  [("queue_id", .int jobId), ("last_update", .time at_)]

def Aggregate.toRow (a : Aggregate) : Row :=
  [("entry_id", .int a.id), ("counter", .int a.counter), ("user_name", .text a.user),
   ("sites", .texts a.sites), ("ces", .texts a.ces), ("excluded_ces", .texts a.excludedCes),
   ("packages", .texts a.packages), ("partitions", .texts a.partitions),
   ("excluded_partitions", .texts a.excludedPartitions), ("ttl", .int a.ttl),
   ("disk", .int a.disk), ("priority", .real a.priority), ("price", .real a.price),
   ("oldest_queue_id", .int a.oldestJob), ("remote_allowed", .bool a.remoteAllowed),
   ("remote_timeout_secs", .ofOption .int a.remoteTimeout), ("idle_since", .time a.idleSince)]

def FairShare.Record.toRow (r : FairShare.Record) : Row :=
  [("user_name", .text r.user), ("priority", .real r.usage.priority),
   ("running", .int r.usage.running), ("max_parallel_jobs", .int r.usage.maxParallel),
   ("total_running_time_last24h", .int r.usage.last24h),
   ("max_total_running_time", .int r.usage.maxTotal), ("userload", .real r.userload),
   ("computed_priority", .real r.weight)]

def SiteQueue.toRow (q : SiteQueue) : Row :=
  [("ce", .text q.ce), ("site", .text q.site), ("status", .text q.status),
   ("blocked", .bool q.blocked), ("assigned", .int q.assigned), ("waiting", .int q.waiting),
   ("status_changed_at", .time q.statusChangedAt)]

def TraceEntry.toRow (id : Int) (t : TraceEntry) : Row :=
  [("id", .int id), ("queue_id", .int t.jobId), ("recorded_at", .time t.recordedAt),
   ("tag", .text t.tag), ("message", .text t.message)]

def markerRow (name owner : String) (takenAt : Instant) : Row :=
  [("name", .text name), ("owner", .text owner), ("last_executed", .time takenAt)]

end GridQueue
