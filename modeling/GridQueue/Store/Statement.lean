/-
# `GridQueue.Store.Statement` — the operations of a job store as statements

Each operation that reads or changes rows of the job store is one
statement, so it takes effect as a whole.  The heartbeat of a job is
written by the statement that also changes the job, for exactly the rows
that it changed.
-/
import GridQueue.Sql.Statement

namespace GridQueue.StoreStatement

open Sql

/-! ## Pieces -/

/-- A column by its name alone. -/
def col (name : String) : Expr := .column "" name

/-- Columns by their names alone, as they are returned. -/
def outputs (names : List String) : List Output := names.map fun n => ⟨col n, ""⟩

/-- Columns of a source, as they are returned. -/
def outputsOf (source : String) (names : List String) : List Output :=
  names.map fun n => ⟨.column source n, ""⟩

/-- Two expressions are equal. -/
def same (a b : Expr) : Expr := .compare .eq a b

/-- The new value of a row that is there already. -/
def excluded (name : String) : Expr := .column "EXCLUDED" name

/-- Writes the time of the statement as the heartbeat of the jobs that an
earlier part returned. -/
def heartbeatOf (part : String) : Insert :=
  { table := "queue_heartbeat"
    columns := ["queue_id", "last_update"]
    supply := .select { outputs := [⟨col "queue_id", ""⟩, ⟨.now, ""⟩], source := ⟨part, ""⟩ }
    conflict := some { key := "queue_id", set := [("last_update", excluded "last_update")] } }

def heartbeats : Option (Source × Expr) :=
  some (⟨"queue_heartbeat", "h"⟩, same (.column "h" "queue_id") (.column "q" "queue_id"))

/-- The job with the identifier in parameter 1 as it is, under the name
`old`. -/
def oldJob : Origin :=
  .select
    { outputs := outputs ["queue_id", "status"]
      source := ⟨"queue", ""⟩
      condition := some (same (col "queue_id") (.param 1))
      locking := .wait }
    "old"

/-- A column of the job as it was. -/
def old (name : String) : Expr := .column "old" name

def job (name : String) : Expr := .column "q" name

/-! ## Jobs -/

def jobColumns : List Output :=
  outputsOf "q"
    ["queue_id", "status", "user_name", "submit_host", "site", "ce", "exec_host", "jdl",
     "priority", "price", "resubmission", "aggregate_id", "split", "master_job", "submitted_at"]
    ++ outputsOf "h" ["last_update"]

/-- 1: identifiers. -/
def getJobs : Statement :=
  .ofSelect
    { outputs := jobColumns
      source := ⟨"queue", "q"⟩
      join := heartbeats
      condition := some (.anyOf (job "queue_id") (.param 1))
      order := [(job "queue_id", .implicit)] }

/-- What a claim returns of the job. -/
def claimColumns : List String :=
  ["queue_id", "resubmission", "user_name", "submit_host", "jdl"]

/-- The oldest waiting job of an aggregate that nobody else is about to
take. -/
def claimCandidate : Select :=
  { outputs := outputs ["queue_id"]
    source := ⟨"queue", ""⟩
    condition := some
      (.and (same (col "status") (.text "WAITING")) (same (col "aggregate_id") (.param 1)))
    order := [(col "queue_id", .implicit)]
    limit := some 1
    locking := .skip }

/-- Assigns the candidate. -/
def claimUpdate : Update :=
  { target := ⟨"queue", "q"⟩
    set :=
      [("status", .text "ASSIGNED"),
       ("site", .param 2),
       ("ce", .param 3),
       ("exec_host", .param 4),
       ("resubmission", .add (job "resubmission") (.int 1)),
       ("assigned_at", .now)]
    origin := some (.source ⟨"candidate", ""⟩)
    condition :=
      .and (same (job "queue_id") (.column "candidate" "queue_id"))
        (same (job "status") (.text "WAITING"))
    returning := outputsOf "q" claimColumns }

/-- 1: aggregate, 2: site, 3: computing element, 4: host. -/
def claim : Statement :=
  .query
    { parts :=
        [("candidate", .select claimCandidate),
         ("claimed", .update claimUpdate),
         ("heartbeat", .insert (heartbeatOf "claimed"))]
      last := .select { outputs := outputs claimColumns, source := ⟨"claimed", ""⟩ } }

/-- Writes a status to the job in parameter 1. -/
def statusUpdate : Update :=
  { target := ⟨"queue", "q"⟩
    set := [("status", .param 3)]
    origin := some oldJob
    condition :=
      Expr.conj
        [same (job "queue_id") (old "queue_id"),
         same (job "resubmission") (.param 2),
         .anyOf (job "status") (.param 4)]
    returning := [⟨job "queue_id", ""⟩, ⟨old "status", "previous"⟩] }

/-- 1: job, 2: hand-out, 3: new status, 4: statuses it may have. -/
def updateStatus : Statement :=
  .query
    { parts :=
        [("updated", .update statusUpdate),
         ("heartbeat", .insert (heartbeatOf "updated"))]
      last := .select { outputs := outputs ["previous"], source := ⟨"updated", ""⟩ } }

/-- 1: job. -/
def currentStatus : Statement :=
  .ofSelect
    { outputs := outputs ["status", "resubmission"]
      source := ⟨"queue", ""⟩
      condition := some (same (col "queue_id") (.param 1)) }

/-- Brings a zombie back, and finds any job that is alive. -/
def aliveUpdate : Update :=
  { target := ⟨"queue", ""⟩
    set := [("status", .cases (same (col "status") (.param 4)) (.param 5) (col "status"))]
    condition :=
      Expr.conj
        [same (col "queue_id") (.param 1),
         same (col "resubmission") (.param 2),
         .anyOf (col "status") (.param 3)]
    returning := outputs ["queue_id"] }

/-- 1: job, 2: hand-out, 3: statuses it may have, 4: the status of a
zombie, 5: the status it gets back. -/
def touchHeartbeat : Statement :=
  .query
    { parts := [("alive", .update aliveUpdate)]
      last := .insert (heartbeatOf "alive") }

/-- Writes another status to the job in parameter 1. -/
def forceUpdate : Update :=
  { target := ⟨"queue", "q"⟩
    set := [("status", .param 2)]
    origin := some oldJob
    condition :=
      .and (same (job "queue_id") (old "queue_id")) (.compare .ne (job "status") (.param 2))
    returning := [⟨old "status", "previous"⟩] }

/-- 1: job, 2: new status. -/
def forceStatus : Statement := .ofUpdate forceUpdate

/-- 1: statuses, 2: instant. -/
def staleJobs : Statement :=
  .ofSelect
    { outputs := outputsOf "q" ["queue_id", "status"] ++ outputsOf "h" ["last_update"]
      source := ⟨"queue", "q"⟩
      join := heartbeats
      condition := some
        (.and (.anyOf (job "status") (.param 1))
          (.compare .lt
            (.coalesce (.column "h" "last_update")
              (.coalesce (job "assigned_at") (job "submitted_at")))
            (.param 2)))
      order := [(job "queue_id", .implicit)] }

/-- Moves a job that was not heard from. -/
def staleUpdate : Update :=
  { target := ⟨"queue", "q"⟩
    set := [("status", .param 3)]
    condition :=
      Expr.conj
        [same (job "queue_id") (.param 1),
         .anyOf (job "status") (.param 2),
         .compare .lt
          (.coalesce
            (.first (.column "h" "last_update") "queue_heartbeat" "h"
              (same (.column "h" "queue_id") (job "queue_id")))
            (.coalesce (job "assigned_at") (job "submitted_at")))
          (.param 4)] }

/-- 1: job, 2: statuses it may have, 3: new status, 4: instant. -/
def transitionIfStale : Statement := .ofUpdate staleUpdate

/-! ## Aggregates, weights and markers -/

/-- 1: aggregate, 2: whether the claim was local. -/
def decrement : Statement :=
  .ofUpdate
    { target := ⟨"waiting_aggregate", ""⟩
      set :=
        [("counter", .greatest (.sub (col "counter") (.int 1)) (.int 0)),
         ("idle_since", .cases (.param 2) .now (col "idle_since"))]
      condition := same (col "entry_id") (.param 1) }

/-- The columns of a fair-share record. -/
def recordColumns : List String :=
  ["user_name", "priority", "running", "max_parallel_jobs", "total_running_time_last24h",
   "max_total_running_time", "userload", "computed_priority"]

/-- 1: whether only active users are asked for. -/
def priorityRecords : Statement :=
  .ofSelect
    { outputs := outputs recordColumns
      source := ⟨"priority_quota", ""⟩
      condition := some
        (.or (.or (same (.param 1) (.bool false)) (.compare .gt (col "running") (.int 0)))
          (.compare .gt (col "total_running_time_last24h") (.int 0)))
      order := [(col "user_name", .implicit)] }

/-- 1: user, 2: load, 3: weight. -/
def updatePriority : Statement :=
  .ofUpdate
    { target := ⟨"priority_quota", ""⟩
      set := [("userload", .param 2), ("computed_priority", .param 3)]
      condition := same (col "user_name") (.param 1) }

/-- 1: name, 2: owner, 3: now, 4: the latest time of an old marker. -/
def acquireMarker : Statement :=
  .ofInsert
    { table := "task_markers"
      columns := ["name", "owner", "last_executed"]
      supply := .values [.param 1, .param 2, .param 3]
      conflict := some
        { key := "name"
          set := [("owner", excluded "owner"), ("last_executed", excluded "last_executed")]
          condition := some
            (.compare .le (.column "task_markers" "last_executed") (.param 4)) } }

/-! ## Queues of computing elements -/

/-- A column of the queue that is there already. -/
def present (name : String) : Expr := .column "site_queue" name

def queueColumns : List String :=
  ["ce", "site", "status", "blocked", "assigned", "waiting", "status_changed_at"]

/-- 1: computing element. -/
def siteQueue : Statement :=
  .ofSelect
    { outputs := outputs queueColumns
      source := ⟨"site_queue", ""⟩
      condition := some (same (col "ce") (.param 1)) }

/-- 1: computing element, 2: site, 3 and 4: changes of the counters. -/
def adjustCounters : Statement :=
  .ofInsert
    { table := "site_queue"
      columns := ["ce", "site", "assigned", "waiting"]
      supply :=
        .values [.param 1, .param 2, .greatest (.param 3) (.int 0), .greatest (.param 4) (.int 0)]
      conflict := some
        { key := "ce"
          set :=
            [("site", excluded "site"),
             ("assigned", .greatest (.add (present "assigned") (.param 3)) (.int 0)),
             ("waiting", .greatest (.add (present "waiting") (.param 4)) (.int 0))] } }

/-- 1: computing element, 2: site, 3: status. -/
def setQueueStatus : Statement :=
  .ofInsert
    { table := "site_queue"
      columns := ["ce", "site", "status"]
      supply := .values [.param 1, .param 2, .param 3]
      conflict := some
        { key := "ce"
          set :=
            [("status", excluded "status"),
             ("status_changed_at",
                .cases (.compare .ne (present "status") (excluded "status")) .now
                  (present "status_changed_at"))] } }

/-- 1: computing element, 2: whether it is blocked. -/
def setQueueBlocked : Statement :=
  .ofInsert
    { table := "site_queue"
      columns := ["ce", "site", "blocked", "status"]
      supply :=
        .values [.param 1, .text "", .param 2, .cases (.param 2) (.text "blocked") (.text "open")]
      conflict := some
        { key := "ce"
          set :=
            [("blocked", excluded "blocked"),
             ("status", excluded "status"),
             ("status_changed_at", .now)] } }

/-! ## Traces -/

/-- 1: job, 2: tag, 3: message. -/
def appendTrace : Statement :=
  .ofInsert
    { table := "job_trace"
      columns := ["queue_id", "tag", "message"]
      supply := .values [.param 1, .param 2, .param 3] }

/-- 1: job. -/
def jobTrace : Statement :=
  .ofSelect
    { outputs := outputs ["queue_id", "recorded_at", "tag", "message"]
      source := ⟨"job_trace", ""⟩
      condition := some (same (col "queue_id") (.param 1))
      order := [(col "id", .implicit)] }

end GridQueue.StoreStatement
