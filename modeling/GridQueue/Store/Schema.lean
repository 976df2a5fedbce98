/-
# `GridQueue.Store.Schema` — the tables of the job store

The tables of a job store in a database, in the order in which they can
be created, the indexes over them, and the table that records which parts
of the schema are in place.
-/
import GridQueue.Sql.Layout

namespace GridQueue.Schema

open Sql

def queue : Layout :=
  { table := "queue"
    columns :=
      [.key "queue_id" .serial,
       .must "status" (.varchar 32),
       .must "user_name" (.varchar 255),
       .must "submit_host" (.varchar 255),
       .may "site" (.varchar 255),
       .may "ce" (.varchar 255),
       .may "exec_host" (.varchar 255),
       .must "jdl" .text,
       .withDefault "priority" .integer (.int 0),
       .withDefault "price" .double (.real "1.0" 1.0),
       .withDefault "resubmission" .integer (.int 0),
       .may "aggregate_id" .bigint,
       .may "split" .bigint,
       .withDefault "master_job" .boolean (.bool false),
       .withDefault "submitted_at" .timestamp .now,
       .may "assigned_at" .timestamp] }

def queueHeartbeat : Layout :=
  { table := "queue_heartbeat"
    columns :=
      [{ name := "queue_id", kind := .bigint, isKey := true, parent := some ("queue", "queue_id") },
       .withDefault "last_update" .timestamp .now] }

def waitingAggregate : Layout :=
  { table := "waiting_aggregate"
    columns :=
      [.key "entry_id" .serial,
       .withDefault "counter" .bigint (.int 0),
       .must "user_name" (.varchar 255),
       .withDefault "sites" .texts .noTexts,
       .withDefault "ces" .texts .noTexts,
       .withDefault "excluded_ces" .texts .noTexts,
       .withDefault "packages" .texts .noTexts,
       .withDefault "partitions" .texts .noTexts,
       .withDefault "excluded_partitions" .texts .noTexts,
       .withDefault "ttl" .bigint (.int 0),
       .withDefault "disk" .bigint (.int 0),
       .withDefault "priority" .double (.real "0" 0.0),
       .withDefault "price" .double (.real "1.0" 1.0),
       .must "oldest_queue_id" .bigint,
       .withDefault "remote_allowed" .boolean (.bool false),
       .may "remote_timeout_secs" .bigint,
       .withDefault "idle_since" .timestamp .now] }

def priorityQuota : Layout :=
  { table := "priority_quota"
    columns :=
      [.key "user_name" (.varchar 255),
       .withDefault "priority" .double (.real "1.0" 1.0),
       .withDefault "running" .bigint (.int 0),
       .withDefault "max_parallel_jobs" .bigint (.int 100),
       .withDefault "total_running_time_last24h" .bigint (.int 0),
       .withDefault "max_total_running_time" .bigint (.int 1000000),
       .withDefault "userload" .double (.real "0" 0.0),
       .withDefault "computed_priority" .double (.real "1.0" 1.0)] }

def siteQueue : Layout :=
  { table := "site_queue"
    columns :=
      [.key "ce" (.varchar 255),
       .must "site" (.varchar 255),
       .withDefault "status" (.varchar 64) (.text "open"),
       .withDefault "blocked" .boolean (.bool false),
       .withDefault "assigned" .bigint (.int 0),
       .withDefault "waiting" .bigint (.int 0),
       .withDefault "status_changed_at" .timestamp .now] }

def jobTrace : Layout :=
  { table := "job_trace"
    columns :=
      [.key "id" .serial,
       .must "queue_id" .bigint,
       .withDefault "recorded_at" .timestamp .now,
       .must "tag" (.varchar 64),
       .must "message" .text] }

def taskMarkers : Layout :=
  { table := "task_markers"
    columns :=
      [.key "name" (.varchar 128),
       .must "owner" (.varchar 255),
       .must "last_executed" .timestamp] }

/-- All tables, in the order in which they are created. -/
def tables : List Layout :=
  [queue, queueHeartbeat, waitingAggregate, priorityQuota, siteQueue, jobTrace, taskMarkers]

def indexes : List Index :=
  [{ name := "idx_queue_status", table := "queue", columns := ["status"] },
   { name := "idx_queue_aggregate_waiting"
     table := "queue"
     columns := ["aggregate_id", "queue_id"]
     condition := some (.compare .eq (.column "" "status") (.text "WAITING")) },
   { name := "idx_queue_heartbeat_last_update"
     table := "queue_heartbeat"
     columns := ["last_update"] },
   { name := "idx_waiting_aggregate_counter"
     table := "waiting_aggregate"
     columns := ["counter"]
     condition := some (.compare .gt (.column "" "counter") (.int 0)) },
   { name := "idx_waiting_aggregate_user"
     table := "waiting_aggregate"
     columns := ["user_name"] },
   { name := "idx_job_trace_queue_id", table := "job_trace", columns := ["queue_id"] }]

/-- The parts of the schema that are in place. -/
def migrationRecord : Layout :=
  { table := "_migrations"
    columns :=
      [.key "name" (.varchar 255),
       .withDefault "applied_at" .timestamp .now] }

end GridQueue.Schema
