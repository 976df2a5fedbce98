/-
# `GridQueue.FairShare.Record` — a user's quota and weight

The quota administration owns the base fields of a record; the load and
the weight are computed from them (`GridQueue.FairShare.Weight`).

A weight that is not above zero keeps all jobs of the user from being
matched; it is -1 for a user over a quota.  Users who used nothing within a
day can be left out of a batch (`hasRecentUsage`), and keep what an earlier
one wrote.
-/

namespace GridQueue.FairShare

/-- What the weight of a user depends on. -/
structure Usage (α : Type) where
  /-- The weight given by the administration. -/
  priority : α
  /-- Cores in use now. -/
  running : Int
  maxParallel : Int
  /-- Seconds of running time over the last day. -/
  last24h : Int
  /-- Allowed seconds of running time a day. -/
  maxTotal : Int

/-- The record of a user. -/
structure Record where
  user : String
  usage : Usage Float
  userload : Float
  /-- Negative for a user over a quota, otherwise the ranking weight. -/
  weight : Float

namespace Record

/-- The user's jobs are not matched at present. -/
def isExcluded (r : Record) : Bool := r.weight ≤ 0.0

/-- The user ran something within the last day or has cores in use. -/
def hasRecentUsage (r : Record) : Bool :=
  decide (0 < r.usage.running) || decide (0 < r.usage.last24h)

end Record

end GridQueue.FairShare
