/-
# `GridQueue.Proofs.Store.Heartbeats` — when jobs were heard from, in statements

Two tables tell when a job was last heard from, and statements bring them
together in three ways:

    join         a job's row beside that of its heartbeat, or beside nothing
    look up      the time of the heartbeat, or nothing
    heartbeatOf  writes the heartbeats of the jobs that an earlier part
                 returned: of none or of one here

The last sign of life is read with the assignment in between, which says
nothing that the heartbeat does not (`eval_lastSeen`).

A statement that writes heartbeats runs after one that changed jobs, in one
request, and takes its rows from what that one returned.  Here at most one
job is changed at a time, so at most one heartbeat is written, and the
tables are again a listing of the store (`Tables.runPart_heartbeat_one`).
-/
import GridQueue.Proofs.Sql.Keyed
import GridQueue.Proofs.Store.Tables
import GridQueue.Store.Statement

namespace GridQueue

open Sql StoreStatement

variable {s : Store} {jobs : List Job} {beats : List (Int × Instant)}
  {assignedAt : Int → Option Instant} {w : Sql.Surroundings} {b : Bindings} {j : Job}

/-! ## Reading -/

/-- The row a job's heartbeat has in a join. -/
def Job.heartbeatColumns (j : Job) : Row :=
  match j.heartbeat? with
  | some b => beatRow b
  | none => []

/-- What an expression can name of a job joined with its heartbeat. -/
def Job.bindings (assignedAt : Int → Option Instant) (j : Job) : Bindings :=
  [("q", jobRow assignedAt j), ("h", j.heartbeatColumns)]

theorem Job.eval_lastUpdate (assignedAt : Int → Option Instant) (j : Job) :
    (Expr.column "h" "last_update").eval w (j.bindings assignedAt) =
      .ofOption .time j.lastHeartbeat := by
  show j.heartbeatColumns.get "last_update" = _
  cases hlast : j.lastHeartbeat <;> simp only [heartbeatColumns, heartbeat?, hlast] <;> rfl

theorem Listing.joined_heartbeats (h : Listing s jobs beats assignedAt)
    (hbeats : w.rowsOf "queue_heartbeat" = beats.map beatRow) {q : Select}
    (hsource : q.source = ⟨"queue", "q"⟩) (hjoin : q.join = heartbeats) (hj : j ∈ jobs) :
    q.joined w (jobRow assignedAt j) = [j.bindings assignedAt] := by
  have hon : ∀ c : Int × Instant, ((same (.column "h" "queue_id") (.column "q" "queue_id")).eval w
      [("q", jobRow assignedAt j), ("h", beatRow c)]).isTrue = decide (c.1 = j.id) := by
    intro c
    rw [same, Expr.eval_eq_int (m := c.1) (n := j.id) rfl rfl, Value.isTrue_bool]
  have hpartners : (beats.map beatRow).filter (fun r =>
      ((same (.column "h" "queue_id") (.column "q" "queue_id")).eval w
        [("q", jobRow assignedAt j), ("h", r)]).isTrue) = j.heartbeat?.toList.map beatRow := by
    rw [List.filter_map]
    simp only [Function.comp_def, hon]
    rw [h.filter_beats, h.mem_jobs.mp hj]
    rfl
  rw [Select.joined, hsource, hjoin]
  simp only [heartbeats, Source.name]
  rw [hbeats]
  simp only [reduceIte, String.reduceEq, hpartners]
  rw [Job.bindings, Job.heartbeatColumns]
  cases j.heartbeat? <;> rfl

/-- Jobs joined with their heartbeats come in the order of the store. -/
theorem Listing.select_joined (h : Listing s jobs beats assignedAt)
    (hqueue : w.rowsOf "queue" = jobs.map (jobRow assignedAt))
    (hbeats : w.rowsOf "queue_heartbeat" = beats.map beatRow) {q : Select} {p : Job → Bool}
    {row : Job → Row}
    (hsource : q.source = ⟨"queue", "q"⟩) (hjoin : q.join = heartbeats)
    (horder : q.order = [(job "queue_id", .implicit)]) (hlimit : q.limit = none)
    (hp : ∀ j ∈ jobs, q.accepts w (j.bindings assignedAt) = p j)
    (hrow : ∀ j, Select.output w (j.bindings assignedAt) q.outputs = row j) :
    q.run w = (s.jobs.values.filter p).map row := by
  have hcompare : ∀ j k : Job, Select.compareBy w (j.bindings assignedAt) (k.bindings assignedAt)
      q.order = compare j.id k.id := by
    intro j k
    rw [horder]
    exact Ordering.then_eq
  rw [Select.run_map (f := jobRow assignedAt) (by rw [hsource, hqueue])
    (fun j => h.joined_heartbeats hbeats hsource hjoin) hp hlimit]
  simp only [hcompare, h.sort_jobs, hrow]

theorem Listing.eval_heartbeat (h : Listing s jobs beats assignedAt)
    (hbeats : w.rowsOf "queue_heartbeat" = beats.map beatRow) (hj : j ∈ jobs) :
    (Expr.first (.column "h" "last_update") "queue_heartbeat" "h"
      (same (.column "h" "queue_id") (job "queue_id"))).eval w (("q", jobRow assignedAt j) :: b) =
      .ofOption .time j.lastHeartbeat := by
  have hcondition : ∀ c : Int × Instant, ((same (.column "h" "queue_id") (job "queue_id")).eval w
      (("h", beatRow c) :: ("q", jobRow assignedAt j) :: b)).isTrue = decide (c.1 = j.id) := by
    intro c
    rw [same, Expr.eval_eq_int (m := c.1) (n := j.id) rfl rfl, Value.isTrue_bool]
  rw [Expr.eval, hbeats, List.find?_map]
  simp only [Function.comp_def, hcondition]
  rw [h.find_beat, h.mem_jobs.mp hj, Option.bind_some, Job.heartbeat?]
  cases j.lastHeartbeat <;> rfl

/-- An assigned job has a heartbeat, so the time of the assignment is never
the last sign of life. -/
theorem Listing.eval_lastSeen (h : Listing s jobs beats assignedAt) (hj : j ∈ jobs) {e : Expr}
    (he : e.eval w (("q", jobRow assignedAt j) :: b) = .ofOption .time j.lastHeartbeat) :
    (Expr.coalesce e (.coalesce (job "assigned_at") (job "submitted_at"))).eval w
      (("q", jobRow assignedAt j) :: b) = .time j.lastSeen := by
  have hassigned : (job "assigned_at").eval w (("q", jobRow assignedAt j) :: b) =
      .ofOption .time (assignedAt j.id) := rfl
  have hsubmitted : (job "submitted_at").eval w (("q", jobRow assignedAt j) :: b) =
      .time j.submittedAt := rfl
  rw [Expr.eval, Expr.eval, he, hassigned, hsubmitted, Job.lastSeen]
  cases hlast : j.lastHeartbeat with
  | some t => rfl
  | none =>
    have hnone : assignedAt j.id = none := by
      rw [← Option.not_isSome_iff_eq_none]
      intro hsome
      have hheard := h.assigned j hj hsome
      rw [hlast] at hheard
      exact absurd hheard Bool.false_ne_true
    rw [hnone]
    rfl

/-! ## Writing -/

section Writing

variable {part : String} {id : Int}

theorem supplied_heartbeatOf (part : String) :
    (heartbeatOf part).supplied w = (w.rowsOf part).map fun r =>
      [("queue_id", (col "queue_id").eval w [(part, r)]), ("last_update", .time w.now)] := by
  simp only [Insert.supplied, heartbeatOf, Select.run_plain, List.map_map]
  rfl

/-- Heartbeats by the identifiers of their jobs. -/
def beatMapping : Mapping Int (Int × Instant) :=
  { layout := Schema.queueHeartbeat
    key := "queue_id"
    name := (·.1)
    row := beatRow
    value := .int
    key_eq := rfl
    row_key := fun _ => rfl
    order_value := Value.order?_int }

theorem heartbeatOf_none (hbeats : w.rowsOf "queue_heartbeat" = beats.map beatRow)
    (hpart : w.rowsOf part = []) :
    (heartbeatOf part).run Schema.queueHeartbeat w =
      .ok { rows := [], affected := 0
            written := some ("queue_heartbeat", beats.map beatRow) } := by
  rw [Insert.run, supplied_heartbeatOf, hpart]
  simp only [heartbeatOf, hbeats]
  rfl

/-- One job was returned; its heartbeat is that of the statement. -/
theorem heartbeatOf_one (hbeats : w.rowsOf "queue_heartbeat" = beats.map beatRow)
    {find : Int → Option (Int × Instant)} (hl : beatMapping.Lists find beats) {r : Row}
    (hpart : w.rowsOf part = [r]) (hid : (col "queue_id").eval w [(part, r)] = .int id)
    (hbig : FitsInt64 id) (hnow : w.now.IsTimestamp) :
    (heartbeatOf part).run Schema.queueHeartbeat w =
      .ok { rows := [], affected := 1
            written := some ("queue_heartbeat", (beat id w.now beats).map beatRow) } := by
  have hfits : Schema.queueHeartbeat.Fits (beatRow (id, w.now)) := 
    .cons hbig (.cons hnow .nil)
  have hi : beatMapping.Supplies (heartbeatOf part) w
      [("queue_id", .int id), ("last_update", .time w.now)] (id, w.now) := by
    refine .of_fits rfl ?_ (fun _ => rfl) hfits
    rw [supplied_heartbeatOf, hpart, List.map_singleton, hid]
  have hadd : (heartbeatOf part).add beatMapping.layout w ⟨beats.map beatMapping.row, 0⟩
      [("queue_id", .int id), ("last_update", .time w.now)] =
        .ok ⟨(beat id w.now beats).map beatRow, 1⟩ := by
    have hany : (beats.any fun b => decide (b.1 = id)) = (find id).isSome := hl.any_name id
    rw [beat, hany]
    cases hfind : find id with
    | none => exact hi.add_none hl hfind
    | some b =>
      have hset : Assignments.applied? [("last_update", excluded "last_update")] Schema.queueHeartbeat w
          (beatMapping.conflict b (id, w.now)) (beatRow b) = .ok (beatRow (id, w.now)) := by
        have hvalue : Schema.queueHeartbeat.Fits [("last_update", .time w.now)] := .cons hnow .nil
        refine (Assignments.applied?_of_fits rfl hvalue).trans ?_
        rw [← show b.1 = id from hl.name_eq hfind]
        rfl
      exact (hi.add_some hl hfind rfl).trans (hi.resolve_passing hl hfind rfl rfl hset rfl)
  exact hi.run_eq hbeats hadd

theorem Tables.runPart_heartbeat_none {d : Database} (ht : Tables d jobs beats assignedAt)
    (hbeats : w.rowsOf "queue_heartbeat" = d.rowsOf "queue_heartbeat")
    (hpart : w.rowsOf part = []) :
    d.runPart w (.insert (heartbeatOf part)) =
      .ok { rows := [], affected := 0
            written := some ("queue_heartbeat", beats.map beatRow) } := by
  have htable : d.table? (heartbeatOf part).table =
      some ⟨Schema.queueHeartbeat, beats.map beatRow⟩ := ht.heartbeats
  rw [Database.runPart_insert htable]
  exact heartbeatOf_none (hbeats.trans ht.rowsOf_heartbeats) hpart

theorem Tables.runPart_heartbeat_one {d : Database} (h : Listing s jobs beats assignedAt)
    (ht : Tables d jobs beats assignedAt)
    (hbeats : w.rowsOf "queue_heartbeat" = d.rowsOf "queue_heartbeat") {r : Row}
    (hpart : w.rowsOf part = [r]) (hid : (col "queue_id").eval w [(part, r)] = .int id)
    (hbig : FitsInt64 id) (hnow : w.now.IsTimestamp) :
    d.runPart w (.insert (heartbeatOf part)) =
      .ok { rows := [], affected := 1
            written := some ("queue_heartbeat", (beat id w.now beats).map beatRow) } := by
  have htable : d.table? (heartbeatOf part).table =
      some ⟨Schema.queueHeartbeat, beats.map beatRow⟩ := ht.heartbeats
  rw [Database.runPart_insert htable]
  exact heartbeatOf_one (hbeats.trans ht.rowsOf_heartbeats) h.filter_beats hpart hid hbig hnow

end Writing

end GridQueue
