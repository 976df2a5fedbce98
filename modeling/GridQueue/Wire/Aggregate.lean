/-
# `GridQueue.Wire.Aggregate` — aggregates and quotas as JSON

Both are written with all their members.  Reading asks for all of them but
the remote timeout of an aggregate, which may be null or absent.  Integers
have 64 bits with sign; weights and prices are floats, and an integer in
their place is rounded to the nearest one.
-/
import GridQueue.Aggregate
import GridQueue.FairShare.Record
import GridQueue.Wire.Job

namespace GridQueue

open Json

def Aggregate.toJson (a : Aggregate) : Json :=
  .obj
    [("entry_id", .int a.id),
     ("counter", .int a.counter),
     ("user", .str a.user),
     ("sites", strs a.sites),
     ("ces", strs a.ces),
     ("excluded_ces", strs a.excludedCes),
     ("packages", strs a.packages),
     ("partitions", strs a.partitions),
     ("excluded_partitions", strs a.excludedPartitions),
     ("ttl", .int a.ttl),
     ("disk", .int a.disk),
     ("priority", .float a.priority),
     ("price", .float a.price),
     ("oldest_queue_id", .int a.oldestJob),
     ("remote_allowed", .bool a.remoteAllowed),
     ("remote_timeout_secs", opt .int a.remoteTimeout),
     ("idle_since", a.idleSince.toJson)]

def Aggregate.ofJson? (j : Json) : Option Aggregate := do
  let r ← j.record?
    ["entry_id", "counter", "user", "sites", "ces", "excluded_ces", "packages",
     "partitions", "excluded_partitions", "ttl", "disk", "priority", "price",
     "oldest_queue_id", "remote_allowed", "remote_timeout_secs", "idle_since"]
  let id ← r.required "entry_id" int64?
  let counter ← r.required "counter" int64?
  let user ← r.required "user" str?
  let sites ← r.required "sites" (list? str?)
  let ces ← r.required "ces" (list? str?)
  let excludedCes ← r.required "excluded_ces" (list? str?)
  let packages ← r.required "packages" (list? str?)
  let partitions ← r.required "partitions" (list? str?)
  let excludedPartitions ← r.required "excluded_partitions" (list? str?)
  let ttl ← r.required "ttl" int64?
  let disk ← r.required "disk" int64?
  let priority ← r.required "priority" float?
  let price ← r.required "price" float?
  let oldestJob ← r.required "oldest_queue_id" int64?
  let remoteAllowed ← r.required "remote_allowed" bool?
  let remoteTimeout ← r.optional "remote_timeout_secs" int64?
  let idleSince ← r.required "idle_since" Instant.ofJson?
  some { id, counter, user, sites, ces, excludedCes, packages, partitions,
         excludedPartitions, ttl, disk, priority, price, oldestJob, remoteAllowed,
         remoteTimeout, idleSince }

def FairShare.Record.toJson (r : FairShare.Record) : Json :=
  .obj
    [("user", .str r.user),
     ("priority", .float r.usage.priority),
     ("running", .int r.usage.running),
     ("max_parallel_jobs", .int r.usage.maxParallel),
     ("total_running_time_last24h", .int r.usage.last24h),
     ("max_total_running_time", .int r.usage.maxTotal),
     ("userload", .float r.userload),
     ("computed_priority", .float r.weight)]

def FairShare.Record.ofJson? (j : Json) : Option FairShare.Record := do
  let r ← j.record?
    ["user", "priority", "running", "max_parallel_jobs", "total_running_time_last24h",
     "max_total_running_time", "userload", "computed_priority"]
  let user ← r.required "user" str?
  let priority ← r.required "priority" float?
  let running ← r.required "running" int64?
  let maxParallel ← r.required "max_parallel_jobs" int64?
  let last24h ← r.required "total_running_time_last24h" int64?
  let maxTotal ← r.required "max_total_running_time" int64?
  let userload ← r.required "userload" float?
  let weight ← r.required "computed_priority" float?
  some ⟨user, ⟨priority, running, maxParallel, last24h, maxTotal⟩, userload, weight⟩

end GridQueue
