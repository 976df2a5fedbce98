/-
# `GridQueue.Pool.Basic` — errors and counts of the worker pool

A pool is made once, started once and shut down once; whatever is asked of
it at another time is an error that says so.  Its counts are of commands
that ended, apart by success, and of workers at work.
-/
import GridQueue.Settings
import GridQueue.Time.Span

namespace GridQueue

/-- Why a pool cannot do what it is asked. -/
inductive PoolError
  | invalidSettings (reason : String)
  | alreadyRunning
  | notRunning
  /-- the pool was shut down before -/
  | closed
  | shutdownTimeout (limit : Span)
  deriving DecidableEq

def PoolError.message : PoolError → String
  | invalidSettings m => "Invalid pool configuration: " ++ m
  | alreadyRunning => "Pool is already running"
  | notRunning => "Pool is not running"
  | closed => "Pool has been shut down and cannot be restarted"
  | shutdownTimeout d => "Shutdown timed out after " ++ d.text

/-- The settings if a pool of this size can be made. -/
def PoolSettings.checked (s : PoolSettings) : Except PoolError PoolSettings :=
  match s.flaw? with
  | some reason => .error (.invalidSettings reason)
  | none => .ok s

/-- What a pool has done so far. -/
structure PoolStats where
  workers : Nat
  /-- Workers that run a command now. -/
  active : Nat
  completed : Nat
  /-- Commands that ended in an error. -/
  failed : Nat
  deriving DecidableEq

namespace PoolStats

def total (s : PoolStats) : Nat := s.completed + s.failed

/-- The part of the commands that succeeded, in percent. -/
def successRate (s : PoolStats) : Float :=
  if s.total = 0 then 0.0
  else Float.ofNat s.completed / Float.ofNat s.total * 100.0

end PoolStats

end GridQueue
