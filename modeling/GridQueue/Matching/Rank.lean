/-
# `GridQueue.Matching.Rank` — which aggregate comes first

The weight of the owner decides, then the price, the higher first; of
equals the one with the oldest job.  An aggregate whose owner is over
quota has no rank.  Floats are compared in an order in which all of them
can be, not-a-number included (`FloatOrder`), so any two candidates are in
order, and of those that rank the same the first in the list is taken.
-/
import GridQueue.Aggregate
import GridQueue.FairShare.Record
import GridQueue.FloatOrder

namespace GridQueue.Matching

/-- The weight an aggregate ranks by: its owner's, or its own if there
is no record of the owner; none if the owner is excluded. -/
def effectiveWeight (a : Aggregate) (owner : Option FairShare.Record) : Option Float :=
  match owner with
  | some r => if r.isExcluded then none else some r.weight
  | none => some a.priority

/-- An aggregate with the weight it ranks by. -/
structure Candidate where
  weight : Float
  aggregate : Aggregate

namespace Candidate

/-- Compares two candidates, the better one being less. -/
def rank (x y : Candidate) : Ordering :=
  (FloatOrder.cmp y.weight x.weight).then <|
    (FloatOrder.cmp y.aggregate.price x.aggregate.price).then <|
      compare x.aggregate.oldestJob y.aggregate.oldestJob

/-- The first of the best candidates of a list. -/
def best? : List Candidate → Option Candidate
  | [] => none
  | c :: rest =>
      match best? rest with
      | none => some c
      | some d => if d.rank c = .lt then some d else some c

end Candidate

end GridQueue.Matching
