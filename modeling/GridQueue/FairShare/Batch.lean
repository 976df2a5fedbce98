/-
# `GridQueue.FairShare.Batch` — recomputing the weights

A batch reads the records of a scope and writes the weight of each.  A
write that fails is counted, and the batch goes on; only the look-up at the
beginning can stop it.  So the report accounts for every record that was
read, as updated or as failed.

Several instances may run batches.  They take turns by a marker in the
store, whose age says when the last one began.
-/
import GridQueue.FairShare.Weight
import GridQueue.Marker
import GridQueue.Service.Call

namespace GridQueue.FairShare

/-- The name of the marker under which instances take turns. -/
def markerName : String := "priority"

/-- What a batch did. -/
structure BatchReport where
  /-- The records read. -/
  rows : Nat := 0
  updated : Nat := 0
  failed : Nat := 0
  /-- Users written as being over a quota. -/
  overQuota : Nat := 0
  duration : Span := ⟨0⟩
  deriving DecidableEq

/-- Writes the weight of one user and counts how that went. -/
def writeWeight (report : BatchReport) (r : Record) : Action BatchReport := do
  let share := r.usage.share
  let started ← Action.stopwatch
  let result ← Action.store (.updatePriority r.user share.userload share.weight)
  let seconds := (Span.between started (← Action.stopwatch)).inSeconds
  match result with
  | .ok _ =>
      Action.note (.weightWritten true seconds)
      return { report with
        updated := report.updated + 1
        overQuota := report.overQuota + (if share.verdict.overQuota then 1 else 0) }
  | .error _ =>
      Action.note (.weightWritten false seconds)
      return { report with failed := report.failed + 1 }

/-- Writes the weights of all users of a list. -/
def writeWeights : BatchReport → List Record → Action BatchReport
  | report, [] => return report
  | report, r :: rest => do
      let report ← writeWeight report r
      writeWeights report rest

/-- Recomputes the weights of the users in a scope. -/
def batch (scope : Scope) : Action (Except StoreError BatchReport) := do
  let started ← Action.stopwatch
  match ← Action.store (.priorityRecords scope) with
  | .error e => return .error e
  | .ok records =>
      let report ← writeWeights { rows := records.length } records
      let duration := Span.between started (← Action.stopwatch)
      Action.note (.batchEnded duration.inSeconds)
      return .ok { report with duration }

/-- Runs a batch unless another instance did within the interval. -/
def batchIfDue (scope : Scope) (owner : String) (interval : Span) :
    Action (Except StoreError (Option BatchReport)) := do
  let now ← Action.now
  match ← Action.store (.acquireMarker markerName owner (Marker.minAge interval) now) with
  | .error e => return .error e
  | .ok false => return .ok none
  | .ok true =>
      match ← batch scope with
      | .error e => return .error e
      | .ok report => return .ok (some report)

end GridQueue.FairShare
