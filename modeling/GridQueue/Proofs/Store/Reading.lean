/-
# `GridQueue.Proofs.Store.Reading` — rows are read back

What is read from a row is what was written to it.  The names of statuses
are told apart, so a status can be looked up among names as among
statuses; and a job is read back from its row joined with its heartbeat.

A row that was written has each of its columns, with a value of the kind
the column is read as, so that reading it cannot fail.  `Row.read_of` and
`Row.status_of` say so of one column.  The rest is one lemma for each
record that a statement returns:

    joinedRow    a job beside its heartbeat
    toRow        a silent job, a claimed one, an aggregate
-/
import GridQueue.Store.Rows

namespace GridQueue

open Sql

/-! ## Names of statuses -/

namespace Status

theorem read_name (s : Status) : read s.name = .ok s := by
  cases s <;> rfl

theorem name_inj {s t : Status} : s.name = t.name ↔ s = t := by
  constructor
  · intro h
    have hs := ofName?_name s
    rw [h, ofName?_name] at hs
    exact (Option.some.inj hs).symm
  · rintro rfl
    rfl

theorem contains_names (l : List Status) (s : Status) :
    (l.map name).contains s.name = l.contains s := by
  rw [Bool.eq_iff_iff, List.contains_iff_mem, List.contains_iff_mem, List.mem_map]
  constructor
  · rintro ⟨t, ht, hname⟩
    rwa [← name_inj.mp hname]
  · exact fun hs => ⟨s, hs, rfl⟩

end Status

/-! ## Columns -/

namespace Sql

theorem Row.read_of {α : Type} {r : Row} {column : String} {f : Value → Option α} {a : α}
    (h : f (r.get column) = some a) : r.read column f = .ok a := by
  rw [read, h]

theorem Row.status_of {r : Row} {column : String} {s : Status}
    (h : r.get column = .text s.name) : r.status column = .ok s := by
  have hread : r.read column Value.text? = .ok s.name := read_of (by rw [h]; rfl)
  simp only [status, hread, bind, Except.bind, Status.read_name]

namespace Value

theorem nullable_text (o : Option String) : nullable text? (.ofText? o) = some o := by
  cases o <;> rfl

theorem nullable_int (o : Option Int) : nullable int? (.ofOption .int o) = some o := by
  cases o <;> rfl

theorem nullable_time (o : Option Instant) : nullable time? (.ofOption .time o) = some o := by
  cases o <;> rfl

end Value

end Sql

/-! ## Records -/

def Job.joinedRow (j : Job) : Row :=
  [("queue_id", .int j.id), ("status", .text j.status.name), ("user_name", .text j.owner.user),
   ("submit_host", .text j.owner.submitHost), ("site", .ofText? j.site), ("ce", .ofText? j.ce),
   ("exec_host", .ofText? j.execHost), ("jdl", .text j.jdl), ("priority", .int j.priority),
   ("price", .real j.price), ("resubmission", .int j.resubmission),
   ("aggregate_id", .ofOption .int j.aggregateId), ("split", .ofOption .int j.split),
   ("master_job", .bool j.masterJob), ("submitted_at", .time j.submittedAt),
   ("last_update", .ofOption .time j.lastHeartbeat)]

theorem Job.ofRow_joinedRow (j : Job) : Job.ofRow j.joinedRow = .ok j := by
  have hstatus : j.joinedRow.status "status" = .ok j.status := Row.status_of rfl
  have hsite : j.joinedRow.read "site" (Value.nullable Value.text?) = .ok j.site :=
    Row.read_of (Value.nullable_text _)
  have hce : j.joinedRow.read "ce" (Value.nullable Value.text?) = .ok j.ce :=
    Row.read_of (Value.nullable_text _)
  have hhost : j.joinedRow.read "exec_host" (Value.nullable Value.text?) = .ok j.execHost :=
    Row.read_of (Value.nullable_text _)
  have haggregate : j.joinedRow.read "aggregate_id" (Value.nullable Value.int?) =
      .ok j.aggregateId := Row.read_of (Value.nullable_int _)
  have hsplit : j.joinedRow.read "split" (Value.nullable Value.int?) = .ok j.split :=
    Row.read_of (Value.nullable_int _)
  have hlast : j.joinedRow.read "last_update" (Value.nullable Value.time?) =
      .ok j.lastHeartbeat := Row.read_of (Value.nullable_time _)
  rw [ofRow, hstatus, hsite, hce, hhost, haggregate, hsplit, hlast]
  rfl

/-- The row of a job that is looked at for its heartbeat. -/
def StaleJob.toRow (j : StaleJob) : Row :=
  [("queue_id", .int j.jobId), ("status", .text j.status.name),
   ("last_update", .ofOption .time j.lastHeartbeat)]

theorem StaleJob.ofRow_toRow (j : StaleJob) : StaleJob.ofRow j.toRow = .ok j := by
  have hstatus : j.toRow.status "status" = .ok j.status := Row.status_of rfl
  have hlast : j.toRow.read "last_update" (Value.nullable Value.time?) = .ok j.lastHeartbeat :=
    Row.read_of (Value.nullable_time _)
  rw [ofRow, hstatus, hlast]
  rfl

def ClaimedJob.toRow (j : ClaimedJob) : Row :=
  [("queue_id", .int j.jobId), ("resubmission", .int j.resubmission),
   ("user_name", .text j.owner.user), ("submit_host", .text j.owner.submitHost),
   ("jdl", .text j.jdl)]

theorem ClaimedJob.ofRow_toRow (j : ClaimedJob) :
    ClaimedJob.ofRow j.aggregateId j.toRow = .ok j := rfl

theorem Aggregate.ofRow_toRow (a : Aggregate) : Aggregate.ofRow a.toRow = .ok a := by
  have htimeout : a.toRow.read "remote_timeout_secs" (Value.nullable Value.int?) =
      .ok a.remoteTimeout := Row.read_of (Value.nullable_int _)
  rw [ofRow, htimeout]
  rfl

end GridQueue
