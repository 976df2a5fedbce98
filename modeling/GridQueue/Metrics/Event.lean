/-
# `GridQueue.Metrics.Event` — what is counted

The parts of the broker say what happened; how it is counted is up to
`GridQueue.Metrics.Basic`.
-/
import GridQueue.Time.Instant

namespace GridQueue

def Span.inSeconds (d : Span) : Float :=
  Float.ofNat (d.nanos / 1000000000) + Float.ofNat (d.nanos % 1000000000) / 1.0e9

namespace Metrics

/-- Something that happened and is counted.  Lengths of time are in
seconds. -/
inductive Event
  /-- a request for work was answered -/
  | matchEnded (outcome tier : String) (seconds : Float)
  /-- someone else claimed the last job of an aggregate -/
  | claimConflict
  /-- no credential could be had for a claimed job -/
  | credentialFailure
  /-- a silent job was to be moved, and was or was heard from meanwhile -/
  | silentJob (target : String) (moved : Bool)
  | sweepEnded (seconds : Float)
  | weightWritten (success : Bool) (seconds : Float)
  | batchEnded (seconds : Float)
  | commandEnded (name : String) (success : Bool)
  /-- so many commands wait for a worker now -/
  | queueDepth (n : Nat)
  /-- so many workers run now -/
  | workers (n : Nat)

end Metrics

end GridQueue
