/-
# `GridQueue.FairShare.Weight` — the fair-share weight

A user over a quota is excluded; a user exactly at the parallel quota
has weight 1; everyone else has fifty times

    (2 - running / maxParallel) * priority / cost

where the cost is 1 for an idle user and otherwise the cores in use,
discounted by e to the minus the used part of the daily quota.  A factor
that is not positive counts as weight 1.  The formula is written over
any arithmetic (`Arithmetic`), so that the function that runs on floats
and the one about real numbers are the same.
-/
import GridQueue.FairShare.Record

namespace GridQueue.FairShare

/-- The operations the weight is made of. -/
class Arithmetic (α : Type) extends Neg α, Sub α, Mul α, Div α where
  ofInt : Int → α
  exp : α → α
  isPositive : α → Bool

instance : Arithmetic Float where
  ofInt := Float.ofInt
  exp := Float.exp
  isPositive x := 0.0 < x

/-- How a weight came about. -/
inductive Verdict
  | runningTimeQuota
  | parallelQuota
  | weighted
  | atCapacity
  deriving DecidableEq

namespace Verdict

def name : Verdict → String
  | runningTimeQuota => "running_time_quota"
  | parallelQuota => "parallel_quota"
  | weighted => "weighted"
  | atCapacity => "at_capacity"

def overQuota : Verdict → Bool
  | runningTimeQuota | parallelQuota => true
  | weighted | atCapacity => false

end Verdict

/-- The load and the weight computed for a user. -/
structure Share (α : Type) where
  userload : α
  weight : α
  verdict : Verdict

variable {α : Type} [Arithmetic α]

open Arithmetic

/-- The part `used / allowed` of a quota, nothing of an empty one. -/
def part (used allowed : Int) : α :=
  if 0 < allowed then (ofInt used : α) / ofInt allowed else ofInt 0

/-- The cores in use as a part of the parallel quota. -/
def Usage.load (u : Usage α) : α := part u.running u.maxParallel

def Usage.cost (u : Usage α) : α :=
  if u.running = 0 then ofInt 1
  else ofInt u.running * exp (-(part u.last24h u.maxTotal : α))

/-- The weight of a user below the quotas. -/
def Usage.balance (u : Usage α) : α :=
  let factor := (ofInt 2 - u.load) * (u.priority / u.cost)
  if isPositive factor then ofInt 50 * factor else ofInt 1

/-- The load and the weight of a user. -/
def Usage.share (u : Usage α) : Share α :=
  if u.last24h > u.maxTotal then ⟨u.load, ofInt (-1), .runningTimeQuota⟩
  else if u.running > u.maxParallel then ⟨u.load, ofInt (-1), .parallelQuota⟩
  else if u.running = u.maxParallel then ⟨u.load, ofInt 1, .atCapacity⟩
  else ⟨u.load, u.balance, .weighted⟩

end GridQueue.FairShare
