/-
# `GridQueue.Settings` — what the parts of the broker can be told

Each part with the values it has unless it is told otherwise.  The
thresholds of liveness follow on each other: a silent job becomes a zombie
after the first, and expires when the second has passed as well.
-/
import GridQueue.Time.Instant

namespace GridQueue

/-- How long statements may take. -/
structure Timeouts where
  query : Span := .ofSeconds 30
  /-- Claims may wait for each other's rows. -/
  claim : Span := .ofSeconds 120
  deriving DecidableEq

/-- When silent jobs are given up. -/
structure LivenessSettings where
  /-- How often to look. -/
  interval : Span := .ofSeconds 300
  zombieAfter : Span := .ofSeconds 3600
  /-- Counted from `zombieAfter` on. -/
  expireAfter : Span := .ofSeconds 7200
  deriving DecidableEq

/-- How jobs are handed out. -/
structure BrokerSettings where
  /-- In whose name tokens are asked for. -/
  principal : String := "grid-broker"
  tokenValidity : Span := .ofSeconds 86400
  /-- Seconds until remote agents may take an aggregate that does not say
  so itself. -/
  remoteTimeout : Int := 43200
  deriving DecidableEq

/-- The size of the worker pool. -/
structure PoolSettings where
  workers : Nat := 8
  /-- How many commands may wait for a worker. -/
  capacity : Nat := 256
  shutdownTimeout : Span := .ofSeconds 30
  deriving DecidableEq

/-- What is wrong with the size of a pool, if anything. -/
def PoolSettings.flaw? (s : PoolSettings) : Option String :=
  if s.workers = 0 then some "num_workers must be at least 1"
  else if s.capacity = 0 then some "queue_capacity must be at least 1"
  else none

end GridQueue
