/-
# `GridQueue.Metrics.Basic` — counts, gauges and distributions

`record` counts an event.  Counts only grow; a gauge shows the last
value; a distribution counts the observed values up to each of its
bounds.  Counts with labels are kept apart by the values of the labels
(`Tally`), and there is a count for a combination from the first event on
that has it.
-/
import GridQueue.Metrics.Event
import GridQueue.Table

namespace GridQueue

/-- The distribution of observed values. -/
structure Histogram where
  /-- The bounds, ascending, with the number of values above the bound
  before and up to this one. -/
  buckets : List (Float × Nat)
  /-- The number of all values. -/
  count : Nat
  sum : Float

namespace Histogram

def ofBounds (bounds : List Float) : Histogram := ⟨bounds.map fun b => (b, 0), 0, 0.0⟩

/-- Counts a value at the first bound it does not exceed. -/
def place (value : Float) : List (Float × Nat) → List (Float × Nat)
  | [] => []
  | (bound, n) :: rest =>
      if value ≤ bound then (bound, n + 1) :: rest else (bound, n) :: place value rest

def observe (h : Histogram) (value : Float) : Histogram :=
  ⟨place value h.buckets, h.count + 1, h.sum + value⟩

/-- The number of values up to each bound. -/
def cumulative (h : Histogram) : List (Float × Nat) :=
  go 0 h.buckets
where
  /-- Adds the values below. -/
  go (below : Nat) : List (Float × Nat) → List (Float × Nat)
    | [] => []
    | (bound, n) :: rest => (bound, below + n) :: go (below + n) rest

end Histogram

/-- Counts by the values of their labels. -/
abbrev Tally := Table (List String) Nat

namespace Tally

/-- The count for these labels, zero if there was nothing to count. -/
def count (t : Tally) (labels : List String) : Nat := (Table.get? t labels).getD 0

def add (t : Tally) (labels : List String) : Tally :=
  Table.insert t labels (t.count labels + 1)

theorem count_add (t : Tally) (labels other : List String) :
    (t.add labels).count other = t.count other + if other = labels then 1 else 0 := by
  unfold count add
  rw [Table.get?_insert]
  split
  · next h => subst h; rfl
  · rfl

end Tally

/-- Everything that is counted.  The labels of a tally stand in the order
of their names. -/
structure Metrics where
  /-- By outcome and tier. -/
  matchRequests : Tally := .empty
  matchLatency : Histogram := .ofBounds [0.005, 0.01, 0.05, 0.1, 0.5, 1.0, 5.0, 30.0]
  claimConflicts : Nat := 0
  credentialFailures : Nat := 0
  /-- By result and status. -/
  silentJobs : Tally := .empty
  sweepLength : Histogram := .ofBounds [0.1, 0.5, 1.0, 5.0, 30.0, 120.0]
  /-- By result. -/
  weightWrites : Tally := .empty
  batchLength : Histogram := .ofBounds [0.1, 0.5, 1.0, 5.0, 30.0, 120.0]
  writeLength : Histogram := .ofBounds [0.001, 0.005, 0.01, 0.05, 0.1, 0.5, 1.0]
  /-- By command and result. -/
  commands : Tally := .empty
  queueDepth : Nat := 0
  workers : Nat := 0

namespace Metrics

/-- How the result of a write or a command is labelled. -/
def resultLabel (success : Bool) : String := if success then "success" else "failure"

/-- How the result of moving a silent job is labelled. -/
def moveLabel (moved : Bool) : String := if moved then "applied" else "skipped"

def record (m : Metrics) : Event → Metrics
  | .matchEnded outcome tier seconds =>
      { m with
        matchRequests := m.matchRequests.add [outcome, tier]
        matchLatency := m.matchLatency.observe seconds }
  | .claimConflict => { m with claimConflicts := m.claimConflicts + 1 }
  | .credentialFailure => { m with credentialFailures := m.credentialFailures + 1 }
  | .silentJob target moved =>
      { m with silentJobs := m.silentJobs.add [moveLabel moved, target] }
  | .sweepEnded seconds => { m with sweepLength := m.sweepLength.observe seconds }
  | .weightWritten success seconds =>
      { m with
        weightWrites := m.weightWrites.add [resultLabel success]
        writeLength := m.writeLength.observe seconds }
  | .batchEnded seconds => { m with batchLength := m.batchLength.observe seconds }
  | .commandEnded name success =>
      { m with commands := m.commands.add [name, resultLabel success] }
  | .queueDepth n => { m with queueDepth := n }
  | .workers n => { m with workers := n }

end Metrics

end GridQueue
